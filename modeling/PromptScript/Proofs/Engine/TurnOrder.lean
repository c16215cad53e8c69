import PromptScript.Proofs.Backend.Echo
import PromptScript.Proofs.Engine.Contents
import PromptScript.Proofs.Engine.Placement

/-!
# The order of a turn

Chat completions send the calls of a message apart from its texts.  A message that speaks behind a
call is sent all the same, in the turn of the message that says the same texts first, and so it
comes back as that one.
-/

namespace PromptScript

open Json (FloatReadsBack)

/-! ## Texts and calls in order -/

/-- Whether a message says none of its texts behind one of its calls. -/
def Message.TextsFirst (message : Message) : Prop :=
  message.content.Pairwise fun earlier later => earlier.call?.isSome → later.text? = none

instance (message : Message) : Decidable message.TextsFirst :=
  inferInstanceAs (Decidable (List.Pairwise _ _))

/-- Texts and calls among which no text stands behind a call are the texts and then the calls. -/
theorem pairwise_iff_eq_append {blocks : List Block}
    (hfits : ∀ block ∈ blocks, block.FitsIn .assistant) :
    (blocks.Pairwise fun earlier later => earlier.call?.isSome → later.text? = none) ↔
      blocks = (blocks.filterMap Block.text?).map .text ++
        (blocks.filterMap Block.call?).map .call := by
  induction blocks with
  | nil => simp
  | cons block rest ih =>
      obtain ⟨hblock, hrest⟩ := List.forall_mem_cons.mp hfits
      rw [List.pairwise_cons, ih hrest]
      cases block with
      | text text =>
          have hsaid : (Block.text text).text? = some text := rfl
          have hnone : (Block.text text).call? = none := rfl
          rw [List.filterMap_cons_some hsaid, List.filterMap_cons_none hnone]
          simp [hnone]
      | call call =>
          have hnone : (Block.call call).text? = none := rfl
          have hmade : (Block.call call).call? = some call := rfl
          have hquiet : (∀ later ∈ rest, later.text? = none) ↔ rest.filterMap Block.text? = [] :=
            List.filterMap_eq_nil_iff.symm
          rw [List.filterMap_cons_none hnone, List.filterMap_cons_some hmade]
          -- A call comes first on both sides only if no text is left behind it.
          simp only [hmade, Option.isSome_some, true_implies, hquiet]
          cases rest.filterMap Block.text? with
          | nil => simp
          | cons text more => simp
      | image picture => exact nomatch hblock
      | result answer => exact nomatch hblock

theorem Message.textsFirst_iff {message : Message} (hrole : message.role = .assistant)
    (hplaced : message.Placed) :
    message.TextsFirst ↔ message = .ofParts message.texts message.calls := by
  obtain ⟨role, content⟩ := message
  obtain rfl : role = .assistant := hrole
  rw [TextsFirst, pairwise_iff_eq_append hplaced]
  simp [ofParts, texts, calls]

/-! ## Requests with a turn -/

namespace Backend

variable {backend : Backend} {before after : Conversation} {message other : Message}
  {params : ModelParams}

/-- The request of a chat completion depends on the turns of the messages alone. -/
theorem requestBody_congr (hchat : backend.IsChat) {first second : Conversation}
    (hturns : first.mapM backend.encodeTurns = second.mapM backend.encodeTurns)
    (tools : List ToolDeclaration) (params : ModelParams) :
    backend.requestBody first tools params = backend.requestBody second tools params := by
  cases hchat with
  | openAi service =>
      have hmessages : first.mapM (OpenAi.encodeMessage service.name) =
        second.mapM (OpenAi.encodeMessage service.name) := hturns
      rw [requestBody, requestBody, OpenAi.requestBody, OpenAi.requestBody, hmessages]
  | mistral =>
      have hmessages : first.mapM Mistral.encodeMessage = second.mapM Mistral.encodeMessage :=
        hturns
      rw [requestBody, requestBody, Mistral.requestBody, Mistral.requestBody, hmessages]

/-- A message can stand in for another that has the same texts and calls. -/
theorem encode_congr (hchat : backend.IsChat) (hkey : params.apiKey.isSome)
    (hrole : message.role = .assistant) (hplaced : message.Placed)
    (hother : other.role = .assistant) (hfits : other.Placed)
    (htexts : other.texts = message.texts) (hcalls : other.calls = message.calls)
    (tools : List ToolDeclaration) :
    backend.encode (before ++ other :: after) tools params =
      backend.encode (before ++ message :: after) tools params := by
  have hsame : backend.encodeTurns other = backend.encodeTurns message := by
    rw [encodeTurns_of_chat hchat hother hfits, encodeTurns_of_chat hchat hrole hplaced, htexts,
      hcalls]
  obtain ⟨key, hkey⟩ := Option.isSome_iff_exists.mp hkey
  obtain ⟨url, headers, hencode⟩ := backend.exists_envelope hkey
  rw [hencode, hencode]
  congr 1
  apply requestBody_congr hchat
  rw [List.mapM_append, List.mapM_append, List.mapM_cons, List.mapM_cons, hsame]

/-- A message is sent as one turn, behind those of the messages before it. -/
theorem exists_request (hchat : backend.IsChat) (hkey : params.apiKey.isSome)
    (hconversation : Conversation.Placed (before ++ message :: after))
    (hrole : message.role = .assistant) (tools : List ToolDeclaration) :
    ∃ request earlier front back,
      backend.encode (before ++ message :: after) tools params = .ok request ∧
      backend.encode before tools params = .ok earlier ∧
      backend.sentTurns earlier.body = some front ∧
      backend.sentTurns request.body =
        some (front ++ backend.chatTurn message.texts message.calls :: back) := by
  have hbefore : before.Placed := fun other hmem =>
    hconversation other (List.mem_append_left _ hmem)
  have hplaced : message.Placed :=
    hconversation message (List.mem_append_right _ List.mem_cons_self)
  obtain ⟨key, hkey⟩ := Option.isSome_iff_exists.mp hkey
  obtain ⟨url, headers, hencode⟩ := backend.exists_envelope hkey
  obtain ⟨body, hbody⟩ :=
    (backend.admits_requestBody _ tools params).exists_ok hconversation
  obtain ⟨start, hstart⟩ := (backend.admits_requestBody _ tools params).exists_ok hbefore
  obtain ⟨fronts, hfronts, hearlier⟩ := sentTurns_of_ok hstart
  obtain ⟨turns, hturns, hsent⟩ := sentTurns_of_ok hbody
  simp only [List.mapM_append, List.mapM_cons, hfronts, encodeTurns_of_chat hchat hrole hplaced,
    Attempt.bind_eq_ok_iff, Attempt.pure_eq_ok_iff, Except.ok.injEq, exists_eq_left'] at hturns
  obtain ⟨-, ⟨backs, -, rfl⟩, rfl⟩ := hturns
  refine ⟨⟨url, headers, body⟩, ⟨url, headers, start⟩, fronts.flatten, backs.flatten, ?_, ?_,
    hearlier, ?_⟩
  · rw [hencode, hbody]
    rfl
  · rw [hencode, hstart]
    rfl
  · rw [hsent]
    simp

end Backend

namespace Engine

variable {engine : Engine} {backend : Backend} {before after : Conversation} {message : Message}

/-- A message of the assistant in the conversation of a reachable engine becomes a turn of every
chat completion that is asked for, behind the turns of the messages before it.  All messages with
the same texts and calls become the same request, so the turn comes back as the one of them that has
its texts first, and as the message itself exactly if it does not speak behind a call, and no text
of it is lost. -/
theorem turn_comes_back_iff_texts_first (hengine : Reachable .wellFormed engine)
    (hchat : backend.IsChat) (tools : List ToolDeclaration) {params : ModelParams}
    (hkey : params.apiKey.isSome)
    (hconversation : engine.state.conversation = before ++ message :: after)
    (hrole : message.role = .assistant)
    (hcalls : ∀ call ∈ message.calls,
      call.arguments.EachNumber FloatReadsBack ∧ call.arguments.nesting ≤ 127) :
    ∃ request earlier front turn back decoded,
      backend.encode engine.state.conversation tools params = .ok request ∧
      backend.encode before tools params = .ok earlier ∧
      backend.sentTurns earlier.body = some front ∧
      backend.sentTurns request.body = some (front ++ turn :: back) ∧
      (∀ other : Message, other.role = .assistant → other.Placed →
        other.texts = message.texts → other.calls = message.calls →
          backend.encode (before ++ other :: after) tools params = .ok request) ∧
      backend.parseReply (backend.echo turn) = .ok (decoded, ⟨0, 0⟩) ∧
      decoded = .ofParts (backend.heardTexts message.texts) message.calls ∧
      (decoded = message ↔
        message.TextsFirst ∧ backend.heardTexts message.texts = message.texts) := by
  have hall := hengine.placed
  rw [hconversation] at hall
  have hplaced : message.Placed := hall message (List.mem_append_right _ List.mem_cons_self)
  have harguments : ∀ call ∈ message.calls,
      Json.parse call.arguments.render = .ok call.arguments := by
    intro call hcall
    obtain ⟨hfloats, hnesting⟩ := hcalls call hcall
    have hblock : .call call ∈ engine.state.conversation.blocks := by
      obtain ⟨block, hblock, hread⟩ := List.mem_filterMap.mp hcall
      cases block with
      | call asked =>
          cases hread
          rw [hconversation]
          exact List.mem_flatMap.mpr
            ⟨message, List.mem_append_right _ List.mem_cons_self, hblock⟩
      | _ => exact nomatch hread
    have hvalue : call.arguments.WellFormed := hengine.wellFormed.1.blocks _ hblock
    exact Json.parse_render hvalue hfloats hnesting
  obtain ⟨request, earlier, front, back, hrequest, hearlier, hfront, hsent⟩ :=
    Backend.exists_request hchat hkey hall hrole tools
  have hread := Backend.parseReply_echo_chatTurn message.texts message.calls hchat harguments
  refine ⟨request, earlier, front, _, back, _, ?_, hearlier, hfront, hsent, ?_, hread, rfl, ?_⟩
  · rw [hconversation]
    exact hrequest
  · intro other hother hfits htexts hsame
    rw [Backend.encode_congr hchat hkey hrole hplaced hother hfits htexts hsame]
    exact hrequest
  · rw [Message.textsFirst_iff hrole hplaced]
    constructor
    · intro hback
      have htexts : backend.heardTexts message.texts = message.texts := by
        conv_rhs => rw [← hback, Message.texts_ofParts]
      rw [htexts] at hback
      exact ⟨hback.symm, htexts⟩
    · rintro ⟨hordered, htexts⟩
      rw [htexts]
      exact hordered.symm

/-- A message that speaks behind a call. -/
def interrupted : Message :=
  ⟨.assistant, [.call ⟨"c", "f", .object []⟩, .text "x"]⟩

/-- An engine that has come to a message that speaks behind a call. -/
def interrupting : Engine :=
  let written := new "s" [.synthesized .toolCall "c f", .synthesized .continuationText "x"] ⟨0, 0⟩
  ((written.step .bare .bare).2.1.step .bare .bare).2.1

theorem turn_comes_back_iff_texts_first_interrupted :
    interrupting.state.conversation = [interrupted] ∧
      ∃ request turn,
        Backend.mistral.encode [interrupted] [] Backend.keyed = .ok request ∧
        Backend.mistral.encode [.ofParts ["x"] interrupted.calls] [] Backend.keyed = .ok request ∧
        Backend.mistral.parseReply (Backend.mistral.echo turn) =
          .ok (.ofParts ["x"] interrupted.calls, ⟨0, 0⟩) ∧
        Message.ofParts ["x"] interrupted.calls ≠ interrupted := by
  have hlines : ∀ statement ∈ [Statement.synthesized .toolCall "c f",
      .synthesized .continuationText "x"], Intake.wellFormed.statement statement := by
    simp [Intake.wellFormed, Statement.synthesized]
  have hnow : (⟨0, 0⟩ : Timestamp).Writable := ⟨by decide, .inl (by decide)⟩
  have hworld : World.bare.Brings Json.WellFormed := fun reply hreply => nomatch hreply
  have hengine : Reachable .wellFormed interrupting :=
    .step .bare (.step .bare (.new "s" hlines hnow) hworld) hworld
  have hconversation : interrupting.state.conversation = [] ++ interrupted :: [] := by
    decide +kernel
  have hcalls : ∀ call ∈ interrupted.calls,
      call.arguments.EachNumber FloatReadsBack ∧ call.arguments.nesting ≤ 127 := by
    intro call hcall
    rw [List.mem_singleton.mp hcall]
    exact ⟨.object (by simp), by decide⟩
  have hkey : Backend.keyed.apiKey.isSome := rfl
  obtain ⟨request, -, -, turn, -, decoded, hrequest, -, -, -, hothers, hread, hdecoded, hiff⟩ :=
    turn_comes_back_iff_texts_first hengine .mistral [] hkey hconversation rfl hcalls
  have hbehind : ¬interrupted.TextsFirst := by decide
  have hdiffers : decoded ≠ interrupted := fun hsame => hbehind (hiff.mp hsame).1
  rw [hconversation] at hrequest
  rw [hdecoded] at hread hdiffers
  have hother := hothers (.ofParts ["x"] interrupted.calls) rfl (by decide) rfl rfl
  exact ⟨hconversation, request, turn, hrequest, hother, hread, hdiffers⟩

end Engine

end PromptScript
