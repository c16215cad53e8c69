import Mathlib.Data.List.Basic
import PromptScript.Proofs.Backend.Acceptance
import PromptScript.Proofs.Backend.Wire
import PromptScript.Proofs.Json.Members
import PromptScript.Proofs.Text.Trim

/-!
# Requests read off

Whatever conversation becomes a request, its texts, images, calls and results can be read off the
request again, turn by turn and in order, and so can its system texts and the names of the
functions.
-/

namespace PromptScript

namespace Backend

@[simp]
theorem lookup?_optionalMember (name other : String) (value : Option Json) :
    Json.lookup? name (optionalMember other value) = if other = name then value else none := by
  cases value <;> simp [optionalMember]

@[simp]
theorem lookup?_optional (name other : String) (value : Json) (missing : Prop) [Decidable missing] :
    Json.lookup? name (if missing then [] else [(other, value)]) =
      if other = name ∧ ¬missing then some value else none := by
  by_cases hmissing : missing <;> simp [hmissing]

/-- What is read from the parts of all inputs is what the inputs stand for. -/
theorem mapM_flatMap_of_read {α β γ : Type} {parts : α → List β} {read : β → Option γ}
    {form : α → List γ} (hread : ∀ input, (parts input).mapM read = some (form input))
    (inputs : List α) : (inputs.flatMap parts).mapM read = some (inputs.flatMap form) := by
  induction inputs with
  | nil => rfl
  | cons input rest ih =>
      rw [List.flatMap_cons, List.mapM_append, hread, ih]
      rfl

theorem mapM_map_of_read {α β γ : Type} {part : α → β} {read : β → Option γ} {form : α → γ}
    (hread : ∀ input, read (part input) = some (form input)) (inputs : List α) :
    (inputs.map part).mapM read = some (inputs.map form) := by
  rw [List.map_eq_flatMap, List.map_eq_flatMap]
  apply mapM_flatMap_of_read
  intro input
  rw [List.mapM_cons, hread]
  rfl

theorem readMember_of_array {α : Type} {name : String} {read : Json → Option α} {value : Json}
    (items : List Json) (hitems : value.member? name = some (.array items)) :
    readMember name read value = items.mapM read := by
  rw [readMember, hitems]

/-- An array member is read item by item, also one that is left out where it is empty. -/
theorem readMember_of_optional {α : Type} {name : String} {read : Json → Option α}
    {front : List (String × Json)} {items : List Json} {empty : Bool}
    (hfront : Json.lookup? name front = none) (hempty : empty = items.isEmpty) :
    readMember name read (.object (front ++ if empty then [] else [(name, .array items)])) =
      items.mapM read := by
  cases items with
  | nil => simp [readMember, hfront, hempty]
  | cons item rest => simp [readMember, hfront, hempty]

/-- A block as a backend sends it. -/
def itemOf (backend : Backend) : Block → WireItem
  | .text body => .text body
  | .image picture => .image (backend.wireImage picture)
  | .call request => .call (backend.wireCall request)
  | .result answer => .result (backend.wireResult answer)

theorem turnOf_eq (backend : Backend) (message : Message) :
    backend.turnOf message =
      .ofItems (backend.wireRole message.role) (message.content.map backend.itemOf) := by
  have hkind : ∀ {α β : Type} (kind : Block → Option α) (wireKind : WireItem → Option β)
      (form : α → β), (∀ block, wireKind (backend.itemOf block) = (kind block).map form) →
        (message.content.map backend.itemOf).filterMap wireKind =
          (message.content.filterMap kind).map form := by
    intro α β kind wireKind form hform
    rw [List.filterMap_map, List.map_filterMap]
    exact congrArg (List.filterMap · _) (funext hform)
  have htexts := hkind Block.text? WireItem.text? id fun block => by cases block <;> rfl
  have himages := hkind Block.image? WireItem.image? backend.wireImage
    fun block => by cases block <;> rfl
  have hcalls := hkind Block.call? WireItem.call? backend.wireCall
    fun block => by cases block <;> rfl
  have hresults := hkind Block.result? WireItem.result? backend.wireResult
    fun block => by cases block <;> rfl
  rw [WireTurn.ofItems, htexts, himages, hcalls, hresults, List.map_id]
  rfl

/-! ## The messages API -/

namespace Anthropic

theorem readMessageBlock_of_ok {role : Role} {block : Block} {encoded : Json}
    (hencode : encodeBlock role block = .ok encoded) :
    readMessageBlock encoded = some (anthropic.itemOf block) := by
  cases role <;> cases block
  all_goals
    simp only [encodeBlock, Except.ok.injEq, reduceCtorEq] at hencode
  all_goals
    subst hencode
  case tool.result answer =>
    cases hfailed : answer.isError <;>
      simp [readMessageBlock, textMember?, itemOf, wireResult, hfailed, Json.asString?]
  all_goals
    simp [readMessageBlock, textMember?, itemOf, wireImage, wireCall, Json.asString?]

theorem texts_of_systemText {content : List Block} {texts : List String}
    (hencode : content.mapM systemText = .ok texts) :
    texts = content.filterMap Block.text? := by
  have hsame := Attempt.flatMap_of_ok (fun text => [text]) (fun block => block.text?.toList)
    hencode fun block text htext => by
      cases block <;> simp_all [systemText, Block.text?]
  rw [List.flatMap_singleton'] at hsame
  rw [hsame, List.filterMap_eq_flatMap_toList]

/-- A message adds its system texts, or else its turn. -/
theorem readMessageTurn_of_ok {message : Message} {turn : Turn}
    (hencode : encodeMessage message = .ok turn) :
    turn.texts = systemTexts message ∧
      turn.message?.toList.mapM readMessageTurn = some (anthropic.turnsOf message) := by
  rw [encodeMessage] at hencode
  rw [systemTexts, turnsOf]
  split at hencode
  next hsystem =>
    obtain ⟨texts, htexts, rfl⟩ := Attempt.map_eq_ok_iff.mp hencode
    rw [if_pos hsystem, if_pos hsystem]
    exact ⟨texts_of_systemText htexts, rfl⟩
  next hsystem =>
    obtain ⟨content, hcontent, rfl⟩ := Attempt.map_eq_ok_iff.mp hencode
    rw [if_neg hsystem, if_neg hsystem]
    refine ⟨rfl, ?_⟩
    have hitems := Attempt.mapM_of_ok readMessageBlock anthropic.itemOf hcontent
      fun block encoded => readMessageBlock_of_ok
    simp [Turn.message?, readMessageTurn, readMember, textMember?, Json.asString?, hitems,
      turnOf_eq]
    rfl

theorem foldl_appendSystem_of_nonempty (texts : List String) {collected : String}
    (hcollected : ¬collected.isEmpty) :
    texts.foldl appendSystem collected = "\n".intercalate (collected :: texts) := by
  induction texts generalizing collected with
  | nil => simp
  | cons text rest ih =>
      have hnext : ¬(collected ++ "\n" ++ text).isEmpty := by simp
      calc (text :: rest).foldl appendSystem collected
          = rest.foldl appendSystem (collected ++ "\n" ++ text) := by
            rw [List.foldl_cons, appendSystem, if_neg hcollected]
        _ = "\n".intercalate ((collected ++ "\n" ++ text) :: rest) := ih hnext
        _ = "\n".intercalate (collected :: text :: rest) := by
            rw [String.intercalate_cons_append, String.intercalate_cons_cons]

/-- What is collected from system texts is all from the first that is not empty, joined with line
feeds. -/
theorem foldl_appendSystem (texts : List String) :
    texts.foldl appendSystem "" = "\n".intercalate (texts.dropWhile String.isEmpty) := by
  induction texts with
  | nil => simp
  | cons text rest ih =>
      rw [List.foldl_cons, appendSystem, if_pos (by simp)]
      by_cases hempty : text.isEmpty
      · rw [List.dropWhile_cons_of_pos hempty, String.isEmpty_iff.mp hempty, ih]
      · rw [List.dropWhile_cons_of_neg hempty, foldl_appendSystem_of_nonempty rest hempty]

theorem says_requestBody {conversation : Conversation} {tools : List ToolDeclaration}
    {params : ModelParams} {body : Json}
    (hencode : requestBody conversation tools params = .ok body) :
    anthropic.Says conversation tools body := by
  simp only [requestBody, Attempt.bind_eq_ok_iff, Attempt.pure_eq_ok_iff] at hencode
  obtain ⟨turns, hturns, rfl⟩ := hencode
  have hread := Attempt.mapM_flatMap_of_ok _ _ _ hturns
    fun message turn hturn => (readMessageTurn_of_ok hturn).2
  have hsystem := Attempt.flatMap_of_ok _ _ hturns
    fun message turn hturn => (readMessageTurn_of_ok hturn).1
  refine ⟨?_, ?_, ?_⟩
  · simpa [readTurns, readMember, List.filterMap_eq_flatMap_toList] using hread
  · rw [readSystem, systemOf, ← hsystem, ← foldl_appendSystem]
    cases ((turns.flatMap Turn.texts).foldl appendSystem "").isEmpty <;> simp [Json.asString?]
  · rw [readToolNames, readMember_of_optional (by simp) (by simp)]
    exact mapM_map_of_read (fun tool => by simp [textMember?, Json.asString?]) tools

end Anthropic

/-! ## The content API -/

namespace Google

theorem readContentPart_of_ok {role : Role} {block : Block} {encoded : Json}
    (hencode : encodePart role block = .ok encoded) :
    readContentPart encoded = some (google.itemOf block) := by
  cases role <;> cases block
  all_goals
    simp only [encodePart, Except.ok.injEq, reduceCtorEq] at hencode
  all_goals
    subst hencode
  case tool.result answer =>
    cases hfailed : answer.isError <;>
      simp [readContentPart, readResponse, textMember?, itemOf, wireResult, hfailed,
        Json.asString?]
  all_goals
    simp [readContentPart, textPart, textMember?, itemOf, wireImage, wireCall, Json.asString?]

theorem readText_of_systemPart {content : List Block} {parts : List Json}
    (hencode : content.mapM systemPart = .ok parts) :
    parts.mapM (textMember? "text") = some (content.filterMap Block.text?) := by
  apply Attempt.mapM_filterMap_of_ok _ _ hencode
  intro block part hpart
  cases block with
  | text body =>
      cases hpart
      exact ⟨body, rfl, by simp [textPart, textMember?, Json.asString?]⟩
  | _ => exact nomatch hpart

/-- A message adds its system texts, or else its turn. -/
theorem readContentTurn_of_ok {message : Message} {turn : Turn}
    (hencode : encodeMessage message = .ok turn) :
    turn.systemParts.mapM (textMember? "text") = some (systemTexts message) ∧
      turn.content?.toList.mapM readContentTurn = some (google.turnsOf message) := by
  rw [encodeMessage] at hencode
  rw [systemTexts, turnsOf]
  split at hencode
  next hsystem =>
    obtain ⟨parts, hparts, rfl⟩ := Attempt.map_eq_ok_iff.mp hencode
    rw [if_pos hsystem, if_pos hsystem]
    exact ⟨readText_of_systemPart hparts, rfl⟩
  next hsystem =>
    obtain ⟨parts, hparts, rfl⟩ := Attempt.map_eq_ok_iff.mp hencode
    rw [if_neg hsystem, if_neg hsystem]
    refine ⟨rfl, ?_⟩
    have hitems := Attempt.mapM_of_ok readContentPart google.itemOf hparts
      fun block encoded => readContentPart_of_ok
    simp [Turn.content?, readContentTurn, readMember, textMember?, Json.asString?, hitems,
      turnOf_eq]
    rfl

/-- The entry of a request that declares the functions. -/
def declarations (tools : List ToolDeclaration) : Json :=
  .object [("functionDeclarations", .array (tools.map fun tool =>
    .object [("description", .string tool.description), ("name", .string tool.name),
      ("parameters", tool.parameters.without "additionalProperties")]))]

theorem says_requestBody {conversation : Conversation} {tools : List ToolDeclaration}
    {params : ModelParams} {body : Json}
    (hencode : requestBody conversation tools params = .ok body) :
    google.Says conversation tools body := by
  simp only [requestBody, Attempt.bind_eq_ok_iff, Attempt.pure_eq_ok_iff] at hencode
  obtain ⟨turns, hturns, rfl⟩ := hencode
  have hread := Attempt.mapM_flatMap_of_ok _ _ _ hturns
    fun message turn hturn => (readContentTurn_of_ok hturn).2
  have hsystem := Attempt.mapM_flatMap_of_ok _ _ _ hturns
    fun message turn hturn => (readContentTurn_of_ok hturn).1
  refine ⟨?_, ?_, ?_⟩
  · simpa [readTurns, readMember, List.filterMap_eq_flatMap_toList] using hread
  · rw [readSystem, systemOf, ← hsystem]
    cases turns.flatMap Turn.systemParts <;> simp [readMember]
  · have hnames : readMember "functionDeclarations" (textMember? "name") (declarations tools) =
        some (tools.map ToolDeclaration.name) :=
      mapM_map_of_read (fun tool => by simp [textMember?, Json.asString?]) tools
    cases tools with
    | nil => simp [readToolNames, readMember]
    | cons tool rest =>
        rw [readToolNames, readMember_of_array [declarations (tool :: rest)]
          (by simp [declarations]), List.mapM_cons, hnames]
        simp

end Google

/-! ## Chat completions -/

namespace OpenAi

variable {pieces : List Piece} {role : Role} {content : Json}

/-- A piece as a backend sends it. -/
def Piece.item (backend : Backend) : Piece → WireItem
  | .text body => .text body
  | .image picture => .image (backend.wireImage picture)
  | .call request => .call (backend.wireCall request)

/-- The item of a piece that stands in the content of its message. -/
def Piece.contentItem? (backend : Backend) : Piece → Option WireItem
  | .call _ => none
  | piece => some (piece.item backend)

/-- The item of a piece that stands among the calls of its message. -/
def Piece.callItem? (backend : Backend) : Piece → Option WireItem
  | .call request => some (.call (backend.wireCall request))
  | _ => none

theorem item_of_pieceOf (backend : Backend) {provider : String} {block : Block} {piece : Piece}
    (hpiece : pieceOf provider role block = .ok piece) :
    piece.item backend = backend.itemOf block := by
  cases block with
  | text body =>
      cases hpiece
      rfl
  | image picture =>
      rw [pieceOf] at hpiece
      split at hpiece
      · cases hpiece
        rfl
      · cases hpiece
  | call request =>
      rw [pieceOf] at hpiece
      split at hpiece
      · cases hpiece
        rfl
      · cases hpiece
  | result answer => cases hpiece

/-- Content and calls, which are sent apart, hold together what the pieces hold. -/
theorem ofItems_pieces (backend : Backend) (role : String) (pieces : List Piece) :
    WireTurn.ofItems role (pieces.filterMap (Piece.contentItem? backend)
        ++ pieces.filterMap (Piece.callItem? backend)) =
      .ofItems role (pieces.map (Piece.item backend)) := by
  have hcontent : ∀ {α : Type} (kind : WireItem → Option α), (∀ call, kind (.call call) = none) →
      (pieces.filterMap (Piece.contentItem? backend)
          ++ pieces.filterMap (Piece.callItem? backend)).filterMap kind =
        (pieces.map (Piece.item backend)).filterMap kind := by
    intro α kind hkind
    have hnone : (pieces.filterMap (Piece.callItem? backend)).filterMap kind = [] := by
      simp only [List.filterMap_filterMap, List.filterMap_eq_nil_iff]
      intro piece hpiece
      cases piece <;> simp [Piece.callItem?, hkind]
    rw [List.filterMap_append, hnone, List.append_nil, List.filterMap_filterMap,
      List.filterMap_map]
    congr 1
    funext piece
    cases piece <;> simp [Piece.contentItem?, Piece.item, hkind]
  have hcalls : (pieces.filterMap (Piece.contentItem? backend)
      ++ pieces.filterMap (Piece.callItem? backend)).filterMap WireItem.call? =
        (pieces.map (Piece.item backend)).filterMap WireItem.call? := by
    have hnone : (pieces.filterMap (Piece.contentItem? backend)).filterMap WireItem.call? = [] := by
      simp only [List.filterMap_filterMap, List.filterMap_eq_nil_iff]
      intro piece hpiece
      cases piece <;> rfl
    rw [List.filterMap_append, hnone, List.nil_append, List.filterMap_filterMap,
      List.filterMap_map]
    congr 1
    funext piece
    cases piece <;> rfl
  rw [WireTurn.ofItems, WireTurn.ofItems, hcalls, hcontent _ fun call => rfl,
    hcontent _ fun call => rfl, hcontent _ fun call => rfl]

/-- Whether a backend sends the arguments of calls as texts. -/
def RendersArguments (backend : Backend) : Prop :=
  ∀ call, backend.wireCall call = { call with arguments := .string call.arguments.render }

theorem readChatCall_of_pieces {backend : Backend} (hrenders : RendersArguments backend)
    (pieces : List Piece) :
    (pieces.filterMap Piece.call?).mapM readChatCall =
      some (pieces.filterMap (Piece.callItem? backend)) := by
  rw [List.filterMap_eq_flatMap_toList, List.filterMap_eq_flatMap_toList]
  apply mapM_flatMap_of_read
  intro piece
  cases piece <;>
    simp [Piece.call?, Piece.callItem?, readChatCall, functionCall, textMember?, Json.asString?,
      hrenders _]

/-- A message whose content is read gives the turn of its pieces. -/
theorem readChatTurn_of_content {backend : Backend} (hrenders : RendersArguments backend)
    (hrole : role ≠ .tool)
    (hcontent : readChatContent content = some (pieces.filterMap (Piece.contentItem? backend))) :
    readChatTurn (.object ([("content", content), ("role", .string role.name)]
      ++ if (pieces.filterMap Piece.call?).isEmpty then []
        else [("tool_calls", .array (pieces.filterMap Piece.call?))])) =
      some (.ofItems role.name (pieces.map (Piece.item backend))) := by
  have hname : role.name ≠ "tool" := by
    cases role <;> simp_all [Role.name]
  rw [readChatTurn, readMember_of_optional (by simp) rfl, readChatCall_of_pieces hrenders,
    ← ofItems_pieces]
  simp [textMember?, Json.asString?, hname, hcontent]

theorem map_item_of_pieces (backend : Backend) {provider : String} {message : Message}
    (hpieces : message.content.mapM (pieceOf provider message.role) = .ok pieces) :
    pieces.map (Piece.item backend) = message.content.map backend.itemOf := by
  rw [List.map_eq_flatMap, List.map_eq_flatMap]
  apply Attempt.flatMap_of_ok _ _ hpieces
  intro block piece hpiece
  rw [item_of_pieceOf backend hpiece]

theorem readChatPart_of_pieces (service : Service) (pieces : List Piece) :
    (pieces.filterMap Piece.part?).mapM readChatPart =
      some (pieces.filterMap (Piece.contentItem? (Backend.openAi service))) := by
  rw [List.filterMap_eq_flatMap_toList, List.filterMap_eq_flatMap_toList]
  apply mapM_flatMap_of_read
  intro piece
  cases piece <;>
    simp [Piece.part?, Piece.contentItem?, Piece.item, readChatPart, textMember?, Json.asString?,
      wireImage]

/-- Content of one text is read like an array with that text. -/
theorem readChatContent_contentOf (service : Service) (pieces : List Piece) :
    readChatContent (contentOf pieces) =
      some (pieces.filterMap (Piece.contentItem? (Backend.openAi service))) := by
  have hread := readChatPart_of_pieces service pieces
  have htext : ∀ part text, part ∈ pieces.filterMap Piece.part? →
      textMember? "text" part = some text → readChatPart part = some (.text text) := by
    intro part text hpart htext
    obtain ⟨piece, -, hpiece⟩ := List.mem_filterMap.mp hpart
    cases piece <;> cases hpiece <;> simp_all [readChatPart, textMember?, Json.asString?]
  rw [← hread, contentOf]
  split
  next hparts =>
    rw [hparts]
    rfl
  next part hparts =>
    rw [hparts]
    cases hfound : textMember? "text" part with
    | none => rfl
    | some text =>
        have hpart := htext part text (by rw [hparts]; exact List.mem_singleton_self part) hfound
        simp [readChatContent, hpart]
  next => rfl

theorem readChatTurn_of_chatMessage {service : Service} {message : Message}
    (hrole : message.role ≠ .tool)
    (hencode : chatMessage service.name message = .ok content) :
    readChatTurn content = some ((Backend.openAi service).turnOf message) := by
  simp only [chatMessage, Attempt.bind_eq_ok_iff, Attempt.pure_eq_ok_iff] at hencode
  obtain ⟨pieces, hpieces, rfl⟩ := hencode
  rw [readChatTurn_of_content (fun call => rfl) hrole (readChatContent_contentOf service pieces),
    map_item_of_pieces _ hpieces, turnOf_eq]
  rfl

/-- A message gives one turn, and a message of results one turn for each of them. -/
theorem readChatTurn_of_messages {backend : Backend} {message : Message} {encoded : List Json}
    {toolMessage : Block → Except RunError Json} {chatMessage : Except RunError Json}
    (htool : ∀ {block encoded}, toolMessage block = .ok encoded → ∃ answer, block = .result answer ∧
      readChatTurn encoded = some (backend.turnOf ⟨.tool, [.result answer]⟩))
    (hchat : ∀ {encoded}, message.role ≠ .tool → chatMessage = .ok encoded →
      readChatTurn encoded = some (backend.turnOf message))
    (hencode : (if message.role = .tool then message.content.mapM toolMessage
      else chatMessage.map fun encoded => [encoded]) = .ok encoded) :
    encoded.mapM readChatTurn = some (if message.role = .tool then
      message.results.map fun result => backend.turnOf ⟨.tool, [.result result]⟩
      else [backend.turnOf message]) := by
  by_cases hrole : message.role = .tool
  · rw [if_pos hrole] at hencode ⊢
    rw [Message.results, List.map_filterMap]
    apply Attempt.mapM_filterMap_of_ok _ _ hencode
    intro block encoded hblock
    obtain ⟨answer, rfl, hturn⟩ := htool hblock
    exact ⟨_, rfl, hturn⟩
  · rw [if_neg hrole] at hencode ⊢
    obtain ⟨content, hcontent, rfl⟩ := Attempt.map_eq_ok_iff.mp hencode
    rw [List.mapM_cons, hchat hrole hcontent]
    rfl

theorem readChatTurn_of_toolMessage {service : Service} {block : Block}
    (hencode : toolMessage service.name block = .ok content) :
    ∃ answer, block = .result answer ∧
      readChatTurn content = some ((Backend.openAi service).turnOf ⟨.tool, [.result answer]⟩) := by
  cases block with
  | result answer =>
      cases hencode
      refine ⟨answer, rfl, ?_⟩
      simp [readChatTurn, textMember?, Json.asString?, turnOf_eq, itemOf, wireRole, wireResult,
        Role.name]
  | _ => exact nomatch hencode

theorem readChatTurn_of_ok {service : Service} {message : Message} {encoded : List Json}
    (hencode : encodeMessage service.name message = .ok encoded) :
    encoded.mapM readChatTurn = some ((Backend.openAi service).turnsOf message) :=
  readChatTurn_of_messages readChatTurn_of_toolMessage readChatTurn_of_chatMessage hencode

theorem readToolName_of_functionTools (tools : List ToolDeclaration) : ∃ items,
    functionTools tools = .array items ∧ items.isEmpty = tools.isEmpty ∧
      items.mapM (fun tool => (tool.member? "function").bind (textMember? "name")) =
        some (tools.map ToolDeclaration.name) := by
  refine ⟨_, rfl, by simp, ?_⟩
  exact mapM_map_of_read (fun tool => by simp [textMember?, Json.asString?]) tools

theorem says_requestBody {service : Service} {conversation : Conversation}
    {tools : List ToolDeclaration} {params : ModelParams} {body : Json}
    (hencode : requestBody service.name conversation tools params = .ok body) :
    (Backend.openAi service).Says conversation tools body := by
  simp only [requestBody, Attempt.bind_eq_ok_iff, Attempt.pure_eq_ok_iff] at hencode
  obtain ⟨messages, hmessages, rfl⟩ := hencode
  have hread := Attempt.mapM_flatMap_of_ok id _ _ hmessages
    fun message encoded => readChatTurn_of_ok
  rw [List.flatMap_id] at hread
  obtain ⟨items, hitems, hempty, hnames⟩ := readToolName_of_functionTools tools
  refine ⟨?_, rfl, ?_⟩
  · simpa [readTurns, readMember] using hread
  · rw [readToolNames, hitems, readMember_of_optional (by simp) hempty.symm]
    exact hnames

end OpenAi

namespace Mistral

open OpenAi (Piece)

variable {message : Message} {content : Json}

theorem readChatPart_of_pieces (pieces : List Piece) :
    (pieces.filterMap partOf?).mapM readChatPart =
      some (pieces.filterMap (Piece.contentItem? mistral)) := by
  rw [List.filterMap_eq_flatMap_toList, List.filterMap_eq_flatMap_toList]
  apply mapM_flatMap_of_read
  intro piece
  cases piece <;>
    simp [partOf?, Piece.contentItem?, Piece.item, readChatPart, textMember?, Json.asString?,
      Json.member?, wireImage]

theorem readChatTurn_of_chatMessage (hrole : message.role ≠ .tool)
    (hencode : chatMessage message = .ok content) :
    readChatTurn content = some (mistral.turnOf message) := by
  simp only [chatMessage, Attempt.bind_eq_ok_iff, Attempt.pure_eq_ok_iff] at hencode
  obtain ⟨pieces, hpieces, rfl⟩ := hencode
  have hcontent : readChatContent (.array (pieces.filterMap partOf?)) =
      some (pieces.filterMap (Piece.contentItem? mistral)) := readChatPart_of_pieces pieces
  rw [OpenAi.readChatTurn_of_content (fun call => rfl) hrole hcontent,
    OpenAi.map_item_of_pieces _ hpieces, turnOf_eq]
  rfl

theorem readChatTurn_of_toolMessage {block : Block} (hencode : toolMessage block = .ok content) :
    ∃ answer, block = .result answer ∧
      readChatTurn content = some (mistral.turnOf ⟨.tool, [.result answer]⟩) := by
  cases block with
  | result answer =>
      cases hencode
      refine ⟨answer, rfl, ?_⟩
      simp [readChatTurn, textMember?, Json.asString?, turnOf_eq, itemOf, wireRole, wireResult,
        Role.name]
  | _ => exact nomatch hencode

theorem readChatTurn_of_ok {encoded : List Json} (hencode : encodeMessage message = .ok encoded) :
    encoded.mapM readChatTurn = some (mistral.turnsOf message) :=
  OpenAi.readChatTurn_of_messages readChatTurn_of_toolMessage readChatTurn_of_chatMessage hencode

theorem says_requestBody {conversation : Conversation} {tools : List ToolDeclaration}
    {params : ModelParams} {body : Json}
    (hencode : requestBody conversation tools params = .ok body) :
    mistral.Says conversation tools body := by
  simp only [requestBody, Attempt.bind_eq_ok_iff, Attempt.pure_eq_ok_iff] at hencode
  obtain ⟨messages, hmessages, rfl⟩ := hencode
  have hread := Attempt.mapM_flatMap_of_ok id _ _ hmessages
    fun message encoded => readChatTurn_of_ok
  rw [List.flatMap_id] at hread
  obtain ⟨items, hitems, hempty, hnames⟩ := OpenAi.readToolName_of_functionTools tools
  refine ⟨?_, rfl, ?_⟩
  · simpa [readTurns, readMember] using hread
  · rw [readToolNames, hitems]
    cases htools : tools.isEmpty with
    | true =>
        rw [htools, List.isEmpty_iff] at hempty
        rw [hempty] at hnames
        simpa [readMember] using hnames
    | false =>
        rw [readMember_of_array items (by simp)]
        exact hnames

end Mistral

/-! ## All formats -/

/-- The media type and the data of an image come back from its URL if the data hold no comma, as is
the case with base64. -/
theorem readDataUrl?_dataUrl {image : Image} (hdata : ',' ∉ image.data.toList) :
    readDataUrl? (dataUrl image) = some (image.mediaType, image.data) := by
  let front := ("data:".toList ++ image.mediaType.toList).reverse
  have hurl : (dataUrl image).toList.reverse =
      image.data.toList.reverse ++ ',' :: (";base64".toList.reverse ++ front) := by
    simp [dataUrl, front]
  have hcut := Text.cutAt?_of_not_mem (mt List.mem_reverse.mp hdata)
    (";base64".toList.reverse ++ front)
  have hheader : Text.dropLead? ";base64".toList.reverse (";base64".toList.reverse ++ front) =
      some front := Text.dropLead?_eq_some_iff.mpr rfl
  have hmedia : Text.dropLead? "data:".toList front.reverse = some image.mediaType.toList := by
    rw [Text.dropLead?_eq_some_iff]
    exact List.reverse_reverse _
  rw [readDataUrl?, hurl, hcut]
  simp only [Option.bind_eq_bind, Option.bind_some, hheader, hmedia]
  simp

/-- Every backend with a key accepts the same conversations, those whose blocks stand where they
may, and refuses all others for their form.  What it accepts can be read off the body of the
request: the turns with all their texts, images, calls and results in order, the system texts that
the format takes out of the turns, and the names of the functions. -/
theorem request_says_conversation (backend : Backend) (conversation : Conversation)
    (tools : List ToolDeclaration) {params : ModelParams} (hkey : params.apiKey.isSome) :
    ((∃ request, backend.encode conversation tools params = .ok request) ↔ conversation.Placed) ∧
    (¬conversation.Placed → ∃ reason, backend.encode conversation tools params =
      .error (.conversion backend.name reason)) ∧
    (∀ request, backend.encode conversation tools params = .ok request →
      backend.Says conversation tools request.body) ∧
    ∀ image, ',' ∉ image.data.toList →
      readDataUrl? (dataUrl image) = some (image.mediaType, image.data) := by
  have hadmits := backend.admits_encode conversation tools hkey
  refine ⟨hadmits.exists_ok_iff, ?_, ?_, ?_⟩
  · intro hplaced
    obtain ⟨error, herror, reason, rfl⟩ := hadmits.exists_error hplaced
    exact ⟨reason, herror⟩
  · intro request hrequest
    obtain ⟨key, hkey⟩ := Option.isSome_iff_exists.mp hkey
    obtain ⟨url, headers, hencode⟩ := backend.encode_eq conversation tools hkey
    rw [hencode] at hrequest
    obtain ⟨body, hbody, rfl⟩ := Attempt.map_eq_ok_iff.mp hrequest
    cases backend with
    | openAi service => exact OpenAi.says_requestBody hbody
    | anthropic => exact Anthropic.says_requestBody hbody
    | google => exact Google.says_requestBody hbody
    | mistral => exact Mistral.says_requestBody hbody
  · intro image hdata
    exact readDataUrl?_dataUrl hdata

/-- Parameters with a key. -/
def keyed : ModelParams :=
  ⟨"m", some "key", none, none, none⟩

/-- A conversation whose first system text is empty. -/
def briefed : Conversation :=
  [⟨.system, [.text "", .text "Be brief."]⟩, .ofText .user "hi"]

theorem request_says_conversation_briefed :
    ∃ request, anthropic.encode briefed [] keyed = .ok request ∧
      anthropic.readTurns request.body = some (briefed.flatMap anthropic.turnsOf) ∧
      anthropic.readSystem request.body = some ["Be brief."] := by
  have hkey : keyed.apiKey.isSome := rfl
  obtain ⟨haccepts, -, hreads, -⟩ := request_says_conversation anthropic briefed [] hkey
  have hplaced : briefed.Placed := by decide
  obtain ⟨request, hrequest⟩ := haccepts.mpr hplaced
  have hsays := hreads request hrequest
  exact ⟨request, hrequest, hsays.turns, hsays.system⟩

/-- The message of a user with an image. -/
def pictured (mediaType data : String) : Conversation :=
  [⟨.user, [.image ⟨"a.png", mediaType, data⟩]⟩]

/-- The line feed behind an empty system text is lost at one backend, and two images with different
media types look the same at another. -/
theorem request_loses_line_feed_and_media_type :
    (anthropic.encode briefed [] keyed).toOption.bind (fun request =>
        request.body.member? "system") = some (.string "Be brief.") ∧
      "\n".intercalate (briefed.flatMap systemTexts) = "\nBe brief." ∧
      (openAi OpenAi.openAi).encode (pictured "image/png;base64,AA" "BB") [] keyed =
        (openAi OpenAi.openAi).encode (pictured "image/png" "AA;base64,BB") [] keyed ∧
      ((openAi OpenAi.openAi).encode (pictured "image/png" "AA;base64,BB") [] keyed).isOk := by
  decide +kernel

end Backend

end PromptScript
