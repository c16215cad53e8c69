import PromptScript.Proofs.Backend.Entries
import PromptScript.Proofs.Backend.ReadOff
import PromptScript.Proofs.Json.Trace

/-!
# Turns that come back as replies

A turn of the assistant that stands in a request can be presented as the reply of a model.  The
messages API and the content API then give the message that the turn was made from.  Chat
completions keep its texts and its calls, but the texts all come first: the turn is made from the
texts and the calls of the message and does not depend on how they stand among each other.
-/

namespace PromptScript

open Json (FloatReadsBack)

/-- A value is never written as a blank text. -/
theorem Json.not_isBlankText_render (value : Json) :
    Text.isBlankText value.render.toList = false := by
  have hfirst : ∃ c ∈ value.chars, Text.isBlank c = false := by
    cases value with
    | null => exact ⟨'n', by decide, by decide⟩
    | bool value =>
        cases value with
        | true => exact ⟨'t', by decide, by decide⟩
        | false => exact ⟨'f', by decide, by decide⟩
    | number value =>
        obtain ⟨c, more, htext⟩ := List.exists_cons_of_ne_nil (numberText_ne_nil value)
        have hc : c ∈ (numberText value).toList := by rw [htext]; exact List.mem_cons_self
        exact ⟨c, hc, isBlank_of_isNumeralChar (allNumeral_numberText value c hc)⟩
    | string text => exact ⟨'"', List.mem_cons_self, by decide⟩
    | array items => exact ⟨'[', List.mem_cons_self, by decide⟩
    | object members => exact ⟨'\x7b', List.mem_cons_self, by decide⟩
  obtain ⟨c, hc, hblank⟩ := hfirst
  rw [render, String.toList_ofList, Text.isBlankText, List.all_eq_false]
  exact ⟨c, hc, by simp [hblank]⟩

/-- The message of the assistant that says some texts and then makes some calls. -/
def Message.ofParts (texts : List String) (calls : List Call) : Message :=
  ⟨.assistant, texts.map .text ++ calls.map .call⟩

@[simp] theorem Message.texts_ofParts (texts : List String) (calls : List Call) :
    (ofParts texts calls).texts = texts := by
  simp [ofParts, Message.texts, List.filterMap_map, Function.comp_def, Block.text?]

@[simp] theorem Message.calls_ofParts (texts : List String) (calls : List Call) :
    (ofParts texts calls).calls = calls := by
  simp [ofParts, Message.calls, List.filterMap_map, Function.comp_def, Block.call?]

namespace Backend

/-! ## The turns of a request -/

/-- The turns of a request, as they are sent. -/
def sentTurns (backend : Backend) (body : Json) : Option (List Json) :=
  match backend with
  | openAi _ | anthropic | mistral => (body.member? "messages").bind Json.asArray?
  | google => (body.member? "contents").bind Json.asArray?

/-- The turns that a message becomes in a request. -/
def encodeTurns (backend : Backend) (message : Message) : Except RunError (List Json) :=
  match backend with
  | openAi service => OpenAi.encodeMessage service.name message
  | mistral => Mistral.encodeMessage message
  | anthropic => (Anthropic.encodeMessage message).map fun turn => turn.message?.toList
  | google => (Google.encodeMessage message).map fun turn => turn.content?.toList

variable {backend : Backend} {conversation : Conversation} {message : Message}
  {tools : List ToolDeclaration} {params : ModelParams} {body : Json}

/-- The turns of a request are those of the messages, one after another. -/
theorem sentTurns_of_ok (hbody : backend.requestBody conversation tools params = .ok body) :
    ∃ turns, conversation.mapM backend.encodeTurns = .ok turns ∧
      backend.sentTurns body = some turns.flatten := by
  cases backend with
  | openAi service =>
      simp only [requestBody, OpenAi.requestBody, Attempt.bind_eq_ok_iff,
        Attempt.pure_eq_ok_iff] at hbody
      obtain ⟨turns, hturns, rfl⟩ := hbody
      exact ⟨turns, hturns, by simp [sentTurns, Json.asArray?]⟩
  | anthropic =>
      simp only [requestBody, Anthropic.requestBody, Attempt.bind_eq_ok_iff,
        Attempt.pure_eq_ok_iff] at hbody
      obtain ⟨turns, hturns, rfl⟩ := hbody
      refine ⟨_, Attempt.mapM_map_of_ok _ hturns, ?_⟩
      simp [sentTurns, Json.asArray?, List.filterMap_eq_flatMap_toList, List.flatMap_def]
  | google =>
      simp only [requestBody, Google.requestBody, Attempt.bind_eq_ok_iff,
        Attempt.pure_eq_ok_iff] at hbody
      obtain ⟨turns, hturns, rfl⟩ := hbody
      refine ⟨_, Attempt.mapM_map_of_ok _ hturns, ?_⟩
      simp [sentTurns, Json.asArray?, List.filterMap_eq_flatMap_toList, List.flatMap_def]
  | mistral =>
      simp only [requestBody, Mistral.requestBody, Attempt.bind_eq_ok_iff,
        Attempt.pure_eq_ok_iff] at hbody
      obtain ⟨turns, hturns, rfl⟩ := hbody
      exact ⟨turns, hturns, by simp [sentTurns, Json.asArray?]⟩

/-- The turns of one message make up the request for it. -/
theorem exists_sentTurns (backend : Backend) (hplaced : message.Placed)
    (tools : List ToolDeclaration) (params : ModelParams) :
    ∃ body turns, backend.requestBody [message] tools params = .ok body ∧
      backend.encodeTurns message = .ok turns ∧ backend.sentTurns body = some turns := by
  have hconversation : Conversation.Placed [message] := by
    intro other hother
    rw [List.mem_singleton.mp hother]
    exact hplaced
  obtain ⟨body, hbody⟩ :=
    (backend.admits_requestBody [message] tools params).exists_ok hconversation
  obtain ⟨parts, hparts, hsent⟩ := sentTurns_of_ok hbody
  simp only [List.mapM_cons, List.mapM_nil, Attempt.bind_eq_ok_iff, Attempt.pure_eq_ok_iff]
    at hparts
  obtain ⟨turns, hturns, -, rfl, rfl⟩ := hparts
  exact ⟨body, turns, hbody, hturns, by rw [hsent, List.flatten_singleton]⟩

/-! ## Turns as replies -/

/-- The reply that says what a turn of a request does. -/
def echo (backend : Backend) (turn : Json) : Json :=
  match backend with
  | openAi _ | mistral => .object [("choices", .array [.object [("message", turn)]])]
  | anthropic => .object [("content", (turn.member? "content").getD .null)]
  | google => .object [("candidates", .array [.object [("content", turn)]])]

theorem reportedUsage_echo (backend : Backend) (turn : Json) :
    backend.reportedUsage (backend.echo turn) = ⟨0, 0⟩ := by
  cases backend <;> rfl

theorem Anthropic.tells_of_encodeBlock {block : Block} {part : Json}
    (hencode : Anthropic.encodeBlock .assistant block = .ok part) :
    anthropic.Tells (.part part) block := by
  cases block with
  | text text =>
      cases hencode
      simp [Tells, textMember?, Json.asString?]
  | call call =>
      cases hencode
      simp [Tells, textMember?, Json.asString?]
  | _ => cases hencode

theorem Google.tells_of_encodePart {block : Block} {part : Json}
    (hencode : Google.encodePart .assistant block = .ok part) :
    google.Tells (.part part) block := by
  cases block with
  | text text =>
      cases hencode
      simp [Tells, Google.textPart, textMember?, Json.asString?]
  | call call =>
      cases hencode
      simp [Tells, textMember?, Json.asString?]
  | _ => cases hencode

/-- Parts that were made from blocks tell the blocks. -/
theorem forall₂_tells_of_encoded {encode : Block → Except RunError Json} {blocks : List Block}
    {parts : List Json} (hencode : blocks.mapM encode = .ok parts)
    (htells : ∀ {block part}, encode block = .ok part → backend.Tells (.part part) block) :
    List.Forall₂ backend.Tells (parts.map .part) blocks := by
  rw [List.forall₂_map_left_iff]
  refine List.Forall₂.flip ?_
  exact (Attempt.mapM_eq_ok_iff.mp hencode).imp fun block part => htells

/-- A turn of the assistant comes back from its reply as the message that it was made from, at a
backend that sends texts and calls in one list. -/
theorem turn_comes_back_whole (hwhole : backend = anthropic ∨ backend = google)
    (hrole : message.role = .assistant) (hplaced : message.Placed)
    (tools : List ToolDeclaration) (params : ModelParams) :
    ∃ body turn, backend.requestBody [message] tools params = .ok body ∧
      backend.sentTurns body = some [turn] ∧
      backend.parseReply (backend.echo turn) = .ok (message, ⟨0, 0⟩) := by
  obtain ⟨body, turns, hbody, hturns, hsent⟩ :=
    exists_sentTurns backend hplaced tools params
  rcases hwhole with rfl | rfl
  · simp only [encodeTurns, Anthropic.encodeMessage, hrole, reduceCtorEq, if_false,
      Attempt.map_eq_ok_iff] at hturns
    obtain ⟨-, ⟨parts, hparts, rfl⟩, rfl⟩ := hturns
    refine ⟨body, _, hbody, hsent, ?_⟩
    rw [parseReply_eq_ok_iff]
    refine ⟨?_, hrole, ?_, (reportedUsage_echo _ _).symm⟩
    · simp [Answers, echo, textMember?]
    · simpa [entries, echo, itemsOf, Json.asArray?] using
        forall₂_tells_of_encoded hparts Anthropic.tells_of_encodeBlock
  · simp only [encodeTurns, Google.encodeMessage, hrole, reduceCtorEq, if_false,
      Attempt.map_eq_ok_iff] at hturns
    obtain ⟨-, ⟨parts, hparts, rfl⟩, rfl⟩ := hturns
    refine ⟨body, _, hbody, hsent, ?_⟩
    rw [parseReply_eq_ok_iff]
    refine ⟨?_, hrole, ?_, (reportedUsage_echo _ _).symm⟩
    · simp [Answers, echo, firstItem?, Json.asArray?]
    · simpa [entries, echo, itemsOf, firstItem?, Json.asArray?] using
        forall₂_tells_of_encoded hparts Google.tells_of_encodePart

/-- A message that calls without an identifier and speaks behind the call. -/
def interleaved : Message :=
  ⟨.assistant, [.call ⟨"", "f", .null⟩, .text "", .text "x"]⟩

theorem turn_comes_back_whole_interleaved :
    ∃ body turn, google.requestBody [interleaved] [] keyed = .ok body ∧
      google.sentTurns body = some [turn] ∧
      google.parseReply (google.echo turn) = .ok (interleaved, ⟨0, 0⟩) :=
  turn_comes_back_whole (.inr rfl) rfl (by decide) [] keyed

/-! ## Turns of chat completions -/

/-- The backends that take chat completions, which send texts and calls apart. -/
inductive IsChat : Backend → Prop
  | openAi (service : OpenAi.Service) : IsChat (.openAi service)
  | mistral : IsChat .mistral

/-- The content part of a text in a chat completion. -/
def chatPart (text : String) : Json :=
  .object [("text", .string text), ("type", .string "text")]

/-- The content of a turn with the given texts. -/
def chatContent : Backend → List String → Json
  | openAi _, [] => .null
  | openAi _, [text] => .string text
  | _, texts => .array (texts.map chatPart)

/-- The turn of the assistant with the given texts and calls. -/
def chatTurn (backend : Backend) (texts : List String) (calls : List Call) : Json :=
  .object ([("content", backend.chatContent texts), ("role", .string "assistant")]
    ++ if calls.isEmpty then [] else [("tool_calls", .array (calls.map functionCall))])

/-- The texts of a turn that come back from its reply: all but a single one that is empty and sent
as a string. -/
def heardTexts : Backend → List String → List String
  | openAi _, [text] => if text.isEmpty then [] else [text]
  | _, texts => texts

/-- Texts and calls of the assistant become their pieces, in order. -/
theorem exists_pieces (provider : String) {blocks : List Block}
    (hfits : ∀ block ∈ blocks, block.FitsIn .assistant) :
    ∃ pieces, blocks.mapM (OpenAi.pieceOf provider .assistant) = .ok pieces ∧
      pieces.filterMap OpenAi.Piece.part? = (blocks.filterMap Block.text?).map chatPart ∧
      pieces.filterMap Mistral.partOf? = (blocks.filterMap Block.text?).map chatPart ∧
      pieces.filterMap OpenAi.Piece.call? = (blocks.filterMap Block.call?).map functionCall := by
  induction blocks with
  | nil => exact ⟨[], rfl, rfl, rfl, rfl⟩
  | cons block rest ih =>
      obtain ⟨hblock, hrest⟩ := List.forall_mem_cons.mp hfits
      obtain ⟨pieces, hpieces, hparts, hparts', hcalls⟩ := ih hrest
      cases block with
      | text text =>
          refine ⟨.text text :: pieces, ?_, congrArg (chatPart text :: ·) hparts,
            congrArg (chatPart text :: ·) hparts', hcalls⟩
          rw [List.mapM_cons, hpieces]
          rfl
      | call call =>
          refine ⟨.call call :: pieces, ?_, hparts, hparts',
            congrArg (functionCall call :: ·) hcalls⟩
          rw [List.mapM_cons, hpieces]
          rfl
      | image picture => exact nomatch hblock
      | result answer => exact nomatch hblock

theorem contentOf_eq (service : OpenAi.Service) {pieces : List OpenAi.Piece} {texts : List String}
    (hparts : pieces.filterMap OpenAi.Piece.part? = texts.map chatPart) :
    OpenAi.contentOf pieces = (Backend.openAi service).chatContent texts := by
  rw [OpenAi.contentOf, hparts]
  cases texts with
  | nil => rfl
  | cons text more =>
      cases more with
      | nil => simp [chatContent, chatPart, textMember?, Json.asString?]
      | cons second rest => rfl

/-- A message of the assistant becomes one turn, which is made from its texts and its calls. -/
theorem encodeTurns_of_chat (hchat : backend.IsChat) (hrole : message.role = .assistant)
    (hplaced : message.Placed) :
    backend.encodeTurns message = .ok [backend.chatTurn message.texts message.calls] := by
  have hfits : ∀ block ∈ message.content, block.FitsIn .assistant := by
    rw [← hrole]
    exact hplaced
  have hspeaks : message.role ≠ .tool := by
    rw [hrole]
    exact Role.noConfusion
  cases hchat with
  | openAi service =>
      obtain ⟨pieces, hpieces, hparts, -, hcalls⟩ := exists_pieces service.name hfits
      have hcontent := contentOf_eq service hparts
      have hturn : OpenAi.chatMessage service.name message =
          .ok ((Backend.openAi service).chatTurn message.texts message.calls) := by
        rw [OpenAi.chatMessage, hrole, hpieces]
        simp only [bind, Except.bind, hcontent, hcalls, List.isEmpty_map]
        rfl
      rw [encodeTurns, OpenAi.encodeMessage, if_neg hspeaks, hturn]
      rfl
  | mistral =>
      obtain ⟨pieces, hpieces, -, hparts, hcalls⟩ := exists_pieces Mistral.provider hfits
      have hturn : Mistral.chatMessage message =
          .ok (mistral.chatTurn message.texts message.calls) := by
        rw [Mistral.chatMessage, hrole, hpieces]
        simp only [bind, Except.bind, hparts, hcalls, List.isEmpty_map]
        rfl
      rw [encodeTurns, Mistral.encodeMessage, if_neg hspeaks, hturn]
      rfl

section ChatTurn

variable (texts : List String) (calls : List Call)

theorem member?_content_chatTurn :
    (backend.chatTurn texts calls).member? "content" = some (backend.chatContent texts) := by
  simp [chatTurn]

theorem hasContent_chatTurn (hchat : backend.IsChat) :
    HasContent (backend.chatTurn texts calls) := by
  rw [HasContent, member?_content_chatTurn]
  cases hchat with
  | openAi service =>
      cases texts with
      | nil => trivial
      | cons text more => cases more <;> trivial
  | mistral => trivial

theorem spokenEntries_chatTurn :
    spokenEntries (backend.chatTurn texts calls) =
      contentEntries (backend.chatTurn texts calls) := by
  have hrefusal : textMember? "refusal" (backend.chatTurn texts calls) = none := by
    simp [chatTurn, textMember?]
  rw [spokenEntries, hrefusal]
  split
  next hempty => rw [List.isEmpty_iff.mp hempty]; rfl
  next => rfl

theorem callEntries_chatTurn : callEntries (backend.chatTurn texts calls) =
    calls.map fun call => .call (functionCall call) := by
  cases calls with
  | nil => simp [callEntries, chatTurn, itemsOf]
  | cons call rest => simp [callEntries, chatTurn, itemsOf, Json.asArray?]

/-- The entries of a turn's content tell the texts that are heard. -/
theorem forall₂_contentEntries (hchat : backend.IsChat) :
    List.Forall₂ backend.Tells (contentEntries (backend.chatTurn texts calls))
      ((backend.heardTexts texts).map .text) := by
  have htells : ∀ text, backend.Tells (.part (chatPart text)) (.text text) := by
    intro text
    cases hchat with
    | openAi service => simp [Tells, chatPart, textMember?, Json.asString?]
    | mistral => simp [Tells, chatPart, textMember?, Json.asString?]
  have hparts : List.Forall₂ backend.Tells ((texts.map chatPart).map .part) (texts.map .text) := by
    simp [List.forall₂_map_left_iff, List.forall₂_map_right_iff, List.forall₂_same, htells]
  rw [contentEntries, member?_content_chatTurn]
  cases hchat with
  | openAi service =>
      cases texts with
      | nil => exact .nil
      | cons text more =>
          cases more with
          | nil =>
              simp only [chatContent, heardTexts]
              by_cases hempty : text.isEmpty
              · simp [hempty]
              · simp [hempty, Tells]
          | cons second rest => exact hparts
  | mistral => exact hparts

theorem tells_functionCall (hchat : backend.IsChat) {call : Call}
    (harguments : Json.parse call.arguments.render = .ok call.arguments) :
    backend.Tells (.call (functionCall call)) (.call call) := by
  have hasks : AsksFor (functionCall call) call := by
    refine ⟨.object [("arguments", .string call.arguments.render), ("name", .string call.name)],
      call.name, call.arguments, ?_, ?_, ?_, ?_⟩
    · simp [functionCall]
    · simp [textMember?, Json.asString?]
    · simp [ReadsArguments, Json.not_isBlankText_render, harguments]
    · simp [functionCall, textMember?, Json.asString?]
  cases hchat with
  | openAi service => exact ⟨by simp [functionCall, textMember?, Json.asString?], hasks⟩
  | mistral => exact hasks

/-- The reply of a turn with texts and calls is read as the texts that are heard and the calls
behind them. -/
theorem parseReply_echo_chatTurn (hchat : backend.IsChat)
    (harguments : ∀ call ∈ calls, Json.parse call.arguments.render = .ok call.arguments) :
    backend.parseReply (backend.echo (backend.chatTurn texts calls)) =
      .ok (.ofParts (backend.heardTexts texts) calls, ⟨0, 0⟩) := by
  have hspoken := forall₂_contentEntries texts calls hchat
  have hcalls : List.Forall₂ backend.Tells (callEntries (backend.chatTurn texts calls))
      (calls.map .call) := by
    rw [callEntries_chatTurn, List.forall₂_map_left_iff, List.forall₂_map_right_iff,
      List.forall₂_same]
    exact fun call hcall => tells_functionCall hchat (harguments call hcall)
  have hblocks := forall₂_append_iff.mpr ⟨_, _, hspoken, hcalls, rfl⟩
  have hturn : chatMessage? (backend.echo (backend.chatTurn texts calls)) =
      some (backend.chatTurn texts calls) := by
    cases hchat with
    | openAi service => rfl
    | mistral => rfl
  have hcontent := hasContent_chatTurn texts calls hchat
  rw [parseReply_eq_ok_iff]
  refine ⟨?_, rfl, ?_, (reportedUsage_echo _ _).symm⟩
  · cases hchat with
    | openAi service => exact ⟨rfl, _, hturn, hcontent⟩
    | mistral => exact ⟨rfl, _, hturn, hcontent⟩
  · cases hchat with
    | openAi service =>
        rw [entries, hturn, Option.elim_some, spokenEntries_chatTurn]
        exact hblocks
    | mistral =>
        rw [entries, hturn, Option.elim_some]
        exact hblocks

end ChatTurn

/-- What is not heard of the texts of a turn adds nothing to the text that they make up. -/
theorem intercalate_heardTexts (backend : Backend) (texts : List String) :
    "\n".intercalate (backend.heardTexts texts) = "\n".intercalate texts := by
  unfold heardTexts
  split
  next service text =>
    split
    next hempty => rw [String.isEmpty_iff.mp hempty]; rfl
    next => rfl
  next => rfl

/-- A turn of the assistant comes back from its reply with all its texts and calls, the texts first,
at a backend that takes chat completions; only a single text that is empty may be missing. -/
theorem turn_keeps_texts_and_calls (hchat : backend.IsChat) (hrole : message.role = .assistant)
    (hplaced : message.Placed)
    (hcalls : ∀ call ∈ message.calls, call.arguments.WellFormed ∧
      call.arguments.EachNumber FloatReadsBack ∧ call.arguments.nesting ≤ 127)
    (tools : List ToolDeclaration) (params : ModelParams) :
    ∃ body turn decoded, backend.requestBody [message] tools params = .ok body ∧
      backend.sentTurns body = some [turn] ∧
      backend.parseReply (backend.echo turn) = .ok (decoded, ⟨0, 0⟩) ∧
      decoded = .ofParts (backend.heardTexts message.texts) message.calls ∧
      decoded.textContent = message.textContent ∧ decoded.calls = message.calls := by
  obtain ⟨body, turns, hbody, hturns, hsent⟩ :=
    exists_sentTurns backend hplaced tools params
  cases (encodeTurns_of_chat hchat hrole hplaced).symm.trans hturns
  have harguments : ∀ call ∈ message.calls,
      Json.parse call.arguments.render = .ok call.arguments := by
    intro call hcall
    obtain ⟨hvalue, hfloats, hnesting⟩ := hcalls call hcall
    exact Json.parse_render hvalue hfloats hnesting
  refine ⟨body, _, _, hbody, hsent, parseReply_echo_chatTurn _ _ hchat harguments, rfl, ?_, ?_⟩
  · rw [Message.textContent, Message.texts_ofParts, intercalate_heardTexts, Message.textContent]
  · rw [Message.calls_ofParts]

/-- A message that says nothing behind a call. -/
def mumbled : Message :=
  ⟨.assistant, [.call ⟨"c", "f", .array [.null]⟩, .text ""]⟩

theorem turn_keeps_texts_and_calls_mumbled :
    ∃ body turn, (openAi OpenAi.openAi).requestBody [mumbled] [] keyed = .ok body ∧
      (openAi OpenAi.openAi).sentTurns body = some [turn] ∧
      (openAi OpenAi.openAi).parseReply ((openAi OpenAi.openAi).echo turn) =
        .ok (.ofParts [] mumbled.calls, ⟨0, 0⟩) := by
  have hcalls : ∀ call ∈ mumbled.calls, call.arguments.WellFormed ∧
      call.arguments.EachNumber FloatReadsBack ∧ call.arguments.nesting ≤ 127 := by
    intro call hcall
    rw [List.mem_singleton.mp hcall]
    exact ⟨.array (by simp [Json.WellFormed.null]), .array (by simp [Json.EachNumber.null]),
      by decide⟩
  have hplaced : mumbled.Placed := by decide
  obtain ⟨body, turn, decoded, hbody, hsent, hread, rfl, -, -⟩ :=
    turn_keeps_texts_and_calls (.openAi OpenAi.openAi) rfl hplaced hcalls [] keyed
  exact ⟨body, turn, hbody, hsent, hread⟩

end Backend

end PromptScript
