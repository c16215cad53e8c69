import Mathlib.Logic.Relation
import PromptScript.Proofs.Backend.Entries
import PromptScript.Proofs.Backend.Replies

/-!
# Members that are null

A provider may send a member as null instead of leaving it out.  Leaving it out as well does not
change what is read from a reply, with two exceptions.  An error that is null is an error, so that
the reply is refused.  And where a backend takes the arguments of a call as they are sent, null
stays null, while missing arguments become the empty object.

Leaving one member out is a step, and what one step keeps is kept by any number of them.
-/

namespace PromptScript.Backend

open Json (DropsNull AtMember AtItem AtFirst AtLater)

/-! ## Null members of replies -/

/-- Whether a count of tokens that is null is left out, or the whole usage. -/
inductive ClearsUsage (usage : String) : Json → Json → Prop
  | whole {body cleared : Json} : DropsNull usage body cleared → ClearsUsage usage body cleared
  | count {count : String} {body cleared : Json} : AtMember usage (DropsNull count) body cleared →
      ClearsUsage usage body cleared

/-- Whether a null member of a call is left out, in chat completions. -/
inductive ClearsCall : Json → Json → Prop
  | id {entry cleared : Json} : DropsNull "id" entry cleared → ClearsCall entry cleared
  | arguments {entry cleared : Json} :
      AtMember "function" (DropsNull "arguments") entry cleared → ClearsCall entry cleared

/-- Whether a null member of a message or of one of its calls is left out, in chat completions. -/
inductive ClearsMessage : Json → Json → Prop
  | content {message cleared : Json} : DropsNull "content" message cleared →
      ClearsMessage message cleared
  | refusal {message cleared : Json} : DropsNull "refusal" message cleared →
      ClearsMessage message cleared
  | calls {message cleared : Json} : DropsNull "tool_calls" message cleared →
      ClearsMessage message cleared
  | call {message cleared : Json} : AtMember "tool_calls" (AtItem ClearsCall) message cleared →
      ClearsMessage message cleared

/-- Whether a null member of a chat completion is left out. -/
inductive ClearsChat : Json → Json → Prop
  | usage {body cleared : Json} : ClearsUsage "usage" body cleared → ClearsChat body cleared
  | message {body cleared : Json} :
      AtMember "choices" (AtItem (AtMember "message" ClearsMessage)) body cleared →
        ClearsChat body cleared

/-- Whether a null member of a turn is left out, but for the input of a call. -/
inductive ClearsTurn : Json → Json → Prop
  | usage {body cleared : Json} : ClearsUsage "usage" body cleared → ClearsTurn body cleared
  | content {body cleared : Json} : DropsNull "content" body cleared → ClearsTurn body cleared
  | id {body cleared : Json} : AtMember "content" (AtItem (DropsNull "id")) body cleared →
      ClearsTurn body cleared
  | unread {body cleared : Json} :
      AtMember "content" (AtItem fun block cleared =>
        textMember? "type" block ≠ some "tool_use" ∧ DropsNull "input" block cleared)
        body cleared → ClearsTurn body cleared

/-- Whether two candidates differ in one part only. -/
def AtPart (change : Json → Json → Prop) : Json → Json → Prop :=
  AtMember "content" (AtMember "parts" (AtItem change))

/-- Whether a null member of a reply's candidates is left out, but for the arguments of a call that
is read. -/
inductive ClearsCandidates : Json → Json → Prop
  | usage {body cleared : Json} : ClearsUsage "usageMetadata" body cleared →
      ClearsCandidates body cleared
  | content {body cleared : Json} :
      AtMember "candidates" (AtItem (DropsNull "content")) body cleared →
        ClearsCandidates body cleared
  | id {body cleared : Json} :
      AtMember "candidates" (AtItem (AtPart (AtMember "functionCall" (DropsNull "id"))))
        body cleared → ClearsCandidates body cleared
  | unread {body cleared : Json} :
      AtMember "candidates" (AtItem (AtPart fun part cleared =>
        textMember? "text" part ≠ none ∧ AtMember "functionCall" (DropsNull "args") part cleared))
        body cleared → ClearsCandidates body cleared
  | later {body cleared : Json} :
      AtMember "candidates" (AtLater (AtPart (AtMember "functionCall" (DropsNull "args"))))
        body cleared → ClearsCandidates body cleared

/-- Whether a null member of a reply is left out that counts for nothing. -/
def Clears : Backend → Json → Json → Prop
  | openAi _ | mistral => ClearsChat
  | anthropic => ClearsTurn
  | google => ClearsCandidates

/-- Whether the null arguments of a call are left out where a backend takes arguments as they are
sent. -/
def ClearsArguments : Backend → Json → Json → Prop
  | openAi _ | mistral => fun _ _ => False
  | anthropic =>
    AtMember "content" (AtItem fun block cleared =>
      textMember? "type" block = some "tool_use" ∧ DropsNull "input" block cleared)
  | google =>
    AtMember "candidates" (AtFirst (AtPart fun part cleared =>
      textMember? "text" part = none ∧ AtMember "functionCall" (DropsNull "args") part cleared))

/-- Whether a backend gives the whole reply as the text of the error that it reports. -/
def Quotes (backend : Backend) (body : Json) : Prop :=
  backend = anthropic ∧ textMember? "type" body = some "error" ∧ body.member? "error" = none

/-! ## Reading around a change -/

section Reading

variable {name other usage provider : String} {value cleared changed : Json}
variable {change : Json → Json → Prop} {read : Json → Except RunError Block}

theorem textMember?_of_drops (hdrops : DropsNull name value cleared) (other : String) :
    textMember? other cleared = textMember? other value :=
  hdrops.bind_eq rfl other

theorem textMember?_of_at (hat : AtMember name change value changed) (hother : name ≠ other) :
    textMember? other changed = textMember? other value := by
  rw [textMember?, textMember?, hat.member?_of_ne hother]

theorem tokenCount_of_drops (hdrops : DropsNull name value cleared) (count : String) :
    tokenCount (some cleared) count = tokenCount (some value) count := by
  rw [tokenCount, tokenCount, Option.bind_some, Option.bind_some, hdrops.bind_eq rfl]

theorem ClearsUsage.tokenCount_eq (hclears : ClearsUsage usage value cleared) (count : String) :
    tokenCount (cleared.member? usage) count = tokenCount (value.member? usage) count := by
  cases hclears with
  | whole hdrops =>
      rw [hdrops.member?_eq_none, hdrops.member?_eq_null]
      rfl
  | count hat =>
      obtain ⟨old, new, hdrops, hold, hnew⟩ := hat.exists_members
      rw [hold, hnew, tokenCount_of_drops hdrops]

theorem ClearsUsage.member?_of_ne (hclears : ClearsUsage usage value cleared)
    (hother : usage ≠ other) : cleared.member? other = value.member? other := by
  cases hclears with
  | whole hdrops => exact hdrops.member?_of_ne hother
  | count hat => exact hat.member?_of_ne hother

/-- Items that are read alike may stand for one another. -/
theorem mapM_itemsOf_of_at (hat : AtItem change value changed)
    (hsame : ∀ old new, change old new → read new = read old) :
    (itemsOf (some changed)).mapM read = (itemsOf (some value)).mapM read := by
  obtain ⟨front, old, new, back, hchange, rfl, rfl⟩ := hat
  simp only [itemsOf, Option.bind_some, Json.asArray?, Option.getD_some, List.mapM_append,
    List.mapM_cons, hsame old new hchange]

/-- Only a change in the first item is seen by what reads the first item. -/
theorem firstItem?_of_at (hat : AtMember name (AtItem change) value changed) :
    firstItem? name changed = firstItem? name value ∨
      ∃ old new, change old new ∧ firstItem? name value = some old ∧
        firstItem? name changed = some new := by
  obtain ⟨_, _, ⟨front, old, new, back, hchange, rfl, rfl⟩, hold, hnew⟩ := hat.exists_members
  rw [firstItem?, firstItem?, hold, hnew]
  cases front with
  | nil => exact .inr ⟨old, new, hchange, rfl, rfl⟩
  | cons first more => exact .inl rfl

end Reading

/-! ## Chat completions -/

section Chat

variable {provider : String} {entry message body cleared : Json}

theorem ClearsCall.textMember?_type (hclears : ClearsCall entry cleared) :
    textMember? "type" cleared = textMember? "type" entry := by
  cases hclears with
  | id hdrops => exact textMember?_of_drops hdrops "type"
  | arguments hat => exact textMember?_of_at hat (by decide)

theorem ClearsCall.askedCall_eq (hclears : ClearsCall entry cleared) :
    askedCall provider cleared = askedCall provider entry := by
  unfold askedCall
  cases hclears with
  | id hdrops => rw [hdrops.member?_of_ne (by decide), textMember?_of_drops hdrops]
  | arguments hat =>
      obtain ⟨old, new, hdrops, hold, hnew⟩ := hat.exists_members
      have harguments : decodeArguments provider (new.member? "arguments") =
          decodeArguments provider (old.member? "arguments") := by
        rw [hdrops.member?_eq_none, hdrops.member?_eq_null]
        rfl
      simp only [hold, hnew, Option.bind_some, textMember?_of_drops hdrops, harguments,
        textMember?_of_at hat (by decide : "function" ≠ "id")]

theorem OpenAi.decodeCall_eq (provider : String) (entry : Json) :
    OpenAi.decodeCall provider entry =
      if (textMember? "type" entry).getD "function" = "function" then askedCall provider entry
      else .error (.conversion provider ("unsupported tool call type '" ++
        (textMember? "type" entry).getD "function" ++ "'")) := by
  by_cases hkind : (textMember? "type" entry).getD "function" = "function"
  · rw [if_pos hkind]
    unfold OpenAi.decodeCall
    rw [if_neg (not_not.mpr hkind)]
    rfl
  · rw [if_neg hkind]
    unfold OpenAi.decodeCall
    rw [if_pos hkind]
    rfl

theorem ClearsChat.error_eq (hclears : ClearsChat body cleared) :
    cleared.member? "error" = body.member? "error" := by
  cases hclears with
  | usage husage => exact husage.member?_of_ne (by decide)
  | message hat => exact hat.member?_of_ne (by decide)

theorem ClearsChat.usageOf_eq (hclears : ClearsChat body cleared) :
    OpenAi.usageOf cleared = OpenAi.usageOf body := by
  unfold OpenAi.usageOf
  cases hclears with
  | usage husage => simp only [husage.tokenCount_eq]
  | message hat => rw [hat.member?_of_ne (by decide)]

theorem ClearsChat.chatMessage?_eq (hclears : ClearsChat body cleared) :
    chatMessage? cleared = chatMessage? body ∨
      ∃ old new, ClearsMessage old new ∧ chatMessage? body = some old ∧
        chatMessage? cleared = some new := by
  cases hclears with
  | usage husage =>
      left
      rw [chatMessage?, chatMessage?, firstItem?, firstItem?, husage.member?_of_ne (by decide)]
  | message hat =>
      rcases firstItem?_of_at hat with hsame | ⟨old, new, hchoice, hold, hnew⟩
      · left
        rw [chatMessage?, chatMessage?, hsame]
      · right
        rw [chatMessage?, chatMessage?, hold, hnew]
        exact hchoice.exists_members

theorem ClearsChat.replyMessage_eq (hclears : ClearsChat body cleared) :
    OpenAi.replyMessage provider cleared = OpenAi.replyMessage provider body ∨
      ∃ old new, ClearsMessage old new ∧ OpenAi.replyMessage provider body = .ok old ∧
        OpenAi.replyMessage provider cleared = .ok new := by
  have herror : errorMessage? cleared = errorMessage? body := by
    rw [errorMessage?, errorMessage?, hclears.error_eq]
  rcases hclears.chatMessage?_eq with hsame | ⟨old, new, hmessage, hold, hnew⟩
  · left
    rw [chatMessage?, chatMessage?] at hsame
    rw [OpenAi.replyMessage, OpenAi.replyMessage, herror, hsame]
  · cases hreported : errorMessage? body with
    | some reason =>
        left
        rw [OpenAi.replyMessage, OpenAi.replyMessage, herror, hreported]
    | none =>
        right
        refine ⟨old, new, hmessage, ?_, ?_⟩
        · exact OpenAi.replyMessage_eq_ok_iff.mpr ⟨errorMessage?_eq_none_iff.mp hreported, hold⟩
        · rw [hreported] at herror
          exact OpenAi.replyMessage_eq_ok_iff.mpr ⟨errorMessage?_eq_none_iff.mp herror, hnew⟩

theorem ClearsMessage.textMember?_refusal (hclears : ClearsMessage message cleared) :
    textMember? "refusal" cleared = textMember? "refusal" message := by
  cases hclears with
  | content hdrops => exact textMember?_of_drops hdrops _
  | refusal hdrops => exact textMember?_of_drops hdrops _
  | calls hdrops => exact textMember?_of_drops hdrops _
  | call hat => exact textMember?_of_at hat (by decide)

/-- Content that is null is read as none. -/
theorem ClearsMessage.read_content {α : Type} {read : Option Json → α}
    (hnull : read (some .null) = read none) (hclears : ClearsMessage message cleared) :
    read (cleared.member? "content") = read (message.member? "content") := by
  cases hclears with
  | content hdrops => rw [hdrops.member?_eq_none, hdrops.member?_eq_null, hnull]
  | refusal hdrops => rw [hdrops.member?_of_ne (by decide)]
  | calls hdrops => rw [hdrops.member?_of_ne (by decide)]
  | call hat => rw [hat.member?_of_ne (by decide)]

theorem ClearsMessage.mapM_calls {read : Json → Except RunError Block}
    (hread : ∀ entry cleared, ClearsCall entry cleared → read cleared = read entry)
    (hclears : ClearsMessage message cleared) :
    (itemsOf (cleared.member? "tool_calls")).mapM read =
      (itemsOf (message.member? "tool_calls")).mapM read := by
  cases hclears with
  | content hdrops => rw [hdrops.member?_of_ne (by decide)]
  | refusal hdrops => rw [hdrops.member?_of_ne (by decide)]
  | calls hdrops => rw [itemsOf, itemsOf, hdrops.bind_eq rfl]
  | call hat =>
      obtain ⟨old, new, hitem, hold, hnew⟩ := hat.exists_members
      rw [hold, hnew, mapM_itemsOf_of_at hitem hread]

theorem readChat_of_clears {readContent : Option Json → Except RunError (List Block)}
    {readCall : Json → Except RunError Block} {speak : Json → List Block → List Block}
    (hcontent : readContent (some .null) = readContent none)
    (hspeak : ∀ message cleared, textMember? "refusal" cleared = textMember? "refusal" message →
      speak cleared = speak message)
    (hcall : ∀ entry cleared, ClearsCall entry cleared → readCall cleared = readCall entry)
    (hclears : ClearsChat body cleared) :
    readChat provider readContent speak readCall cleared =
      readChat provider readContent speak readCall body := by
  unfold readChat
  rw [hclears.usageOf_eq]
  rcases hclears.replyMessage_eq with hsame | ⟨old, new, hmessage, hold, hnew⟩
  · rw [hsame]
  · rw [hold, hnew]
    change (readContent (new.member? "content") >>= _) = readContent (old.member? "content") >>= _
    rw [hmessage.read_content hcontent, hmessage.mapM_calls hcall,
      hspeak old new hmessage.textMember?_refusal]

theorem OpenAi.parseReply_of_clears (hclears : ClearsChat body cleared) :
    OpenAi.parseReply provider cleared = OpenAi.parseReply provider body := by
  apply readChat_of_clears _ _ _ hclears
  · rfl
  · intro message cleared hrefusal
    rw [hrefusal]
  · intro entry cleared hentry
    rw [decodeCall_eq, decodeCall_eq, hentry.textMember?_type, hentry.askedCall_eq]

theorem Mistral.parseReply_of_clears (hclears : ClearsChat body cleared) :
    Mistral.parseReply cleared = Mistral.parseReply body := by
  apply readChat_of_clears _ _ _ hclears
  · rfl
  · intro message cleared hrefusal
    rfl
  · intro entry cleared hentry
    exact hentry.askedCall_eq

end Chat

/-! ## Null arguments -/

/-- Whether two attempts to read blocks end with the same error, or with blocks that differ in one
call, whose arguments are null in the first and the empty object in the second. -/
def FillsArguments (blocks filled : Except RunError (List Block)) : Prop :=
  (∃ error, blocks = .error error ∧ filled = .error error) ∨
    ∃ front call back, call.arguments = .null ∧ blocks = .ok (front ++ .call call :: back) ∧
      filled = .ok (front ++ .call { call with arguments := .object [] } :: back)

theorem fillsArguments_of_at {change : Json → Json → Prop} {read : Json → Except RunError Block}
    {value changed : Json} (hat : AtItem change value changed)
    (hread : ∀ old new, change old new →
      (∃ error, read old = .error error ∧ read new = .error error) ∨
        ∃ call, call.arguments = .null ∧ read old = .ok (.call call) ∧
          read new = .ok (.call { call with arguments := .object [] })) :
    FillsArguments ((itemsOf (some value)).mapM read) ((itemsOf (some changed)).mapM read) := by
  obtain ⟨front, old, new, back, hchange, rfl, rfl⟩ := hat
  simp only [itemsOf, Option.bind_some, Json.asArray?, Option.getD_some, List.mapM_append,
    List.mapM_cons]
  cases front.mapM read with
  | error error => exact .inl ⟨error, rfl, rfl⟩
  | ok before =>
      rcases hread old new hchange with ⟨error, hold, hnew⟩ | ⟨call, hnull, hold, hnew⟩
      · rw [hold, hnew]
        exact .inl ⟨error, rfl, rfl⟩
      · rw [hold, hnew]
        cases back.mapM read with
        | error error => exact .inl ⟨error, rfl, rfl⟩
        | ok behind => exact .inr ⟨before, call, behind, hnull, rfl, rfl⟩

/-! ## Turns -/

namespace Anthropic

variable {block body cleared changed : Json} {change : Json → Json → Prop}

/-- The blocks of a reply. -/
def readBlocks (body : Json) : Except RunError (List Block) :=
  match (body.member? "content").bind Json.asArray? with
  | none => .error (.providerApi provider "no content in response")
  | some blocks => blocks.mapM decodeBlock

theorem parseReply_of_error (herror : textMember? "type" body = some "error") :
    parseReply body =
      .error (.providerApi provider ((errorMessage? body).getD body.render)) := by
  rw [parseReply, if_pos herror]
  rfl

/-- An error that is reported is given as it is, whatever else the reply holds. -/
theorem parseReply_of_reported (hfault : textMember? "type" body = some "error")
    (hquotes : ¬anthropic.Quotes body)
    (htype : changed.member? "type" = body.member? "type")
    (herror : changed.member? "error" = body.member? "error") :
    parseReply changed = parseReply body := by
  obtain ⟨error, hreported⟩ : ∃ error, body.member? "error" = some error :=
    Option.ne_none_iff_exists'.mp fun hnone => hquotes ⟨rfl, hfault, hnone⟩
  have hsame : textMember? "type" changed = some "error" := by
    rw [← hfault, textMember?, textMember?, htype]
  rw [parseReply_of_error hfault, parseReply_of_error hsame, errorMessage?, errorMessage?, herror,
    hreported]
  rfl

theorem parseReply_of_ne_error (herror : textMember? "type" body ≠ some "error") :
    parseReply body =
      (readBlocks body).map fun blocks => (⟨.assistant, blocks⟩, anthropic.reportedUsage body) := by
  rw [parseReply, if_neg herror, readBlocks]
  cases (body.member? "content").bind Json.asArray? with
  | none => rfl
  | some blocks =>
      dsimp only
      cases blocks.mapM decodeBlock <;> rfl

theorem readBlocks_of_array {value : Json} (hcontent : body.member? "content" = some value)
    (harray : ∃ items, value = .array items) :
    readBlocks body = (itemsOf (some value)).mapM decodeBlock := by
  obtain ⟨items, rfl⟩ := harray
  rw [readBlocks, hcontent]
  rfl

/-- Blocks that are read alike may stand for one another. -/
theorem readBlocks_of_at (hat : AtMember "content" (AtItem change) body changed)
    (hsame : ∀ old new, change old new → decodeBlock new = decodeBlock old) :
    readBlocks changed = readBlocks body := by
  obtain ⟨old, new, hitem, hold, hnew⟩ := hat.exists_members
  rw [readBlocks_of_array hold hitem.exists_items.1, readBlocks_of_array hnew hitem.exists_items.2,
    mapM_itemsOf_of_at hitem hsame]

theorem decodeBlock_of_drops_id (hdrops : DropsNull "id" block cleared) :
    decodeBlock cleared = decodeBlock block := by
  unfold decodeBlock
  simp only [textMember?_of_drops hdrops, hdrops.member?_of_ne (by decide : "id" ≠ "input")]

/-- The input of a block that is no call is not read. -/
theorem decodeBlock_of_drops_input (htype : textMember? "type" block ≠ some "tool_use")
    (hdrops : DropsNull "input" block cleared) : decodeBlock cleared = decodeBlock block := by
  unfold decodeBlock
  simp only [textMember?_of_drops hdrops]
  split
  next => rfl
  next hcall =>
    cases hkind : textMember? "type" block with
    | none => simp [hkind] at hcall
    | some kind =>
        rw [hkind, Option.getD_some] at hcall
        exact absurd (hcall ▸ hkind) htype
  next => rfl

/-- Input that is null stays null, and missing input becomes the empty object. -/
theorem decodeBlock_fills (htype : textMember? "type" block = some "tool_use")
    (hdrops : DropsNull "input" block cleared) :
    (∃ error, decodeBlock block = .error error ∧ decodeBlock cleared = .error error) ∨
      ∃ call, call.arguments = .null ∧ decodeBlock block = .ok (.call call) ∧
        decodeBlock cleared = .ok (.call { call with arguments := .object [] }) := by
  unfold decodeBlock
  simp only [textMember?_of_drops hdrops, htype, Option.getD_some, hdrops.member?_eq_null,
    hdrops.member?_eq_none, Option.getD_none]
  cases textMember? "name" block with
  | none => exact .inl ⟨_, rfl, rfl⟩
  | some name => exact .inr ⟨_, rfl, rfl, rfl⟩

end Anthropic

/-- Only the usage of a turn tells its tokens. -/
theorem reportedUsage_of_turn {body changed : Json}
    (husage : changed.member? "usage" = body.member? "usage") :
    anthropic.reportedUsage changed = anthropic.reportedUsage body := by
  simp only [reportedUsage, husage]

/-- Only the usage of a reply with candidates tells its tokens. -/
theorem reportedUsage_of_candidates {body changed : Json}
    (husage : changed.member? "usageMetadata" = body.member? "usageMetadata") :
    google.reportedUsage changed = google.reportedUsage body := by
  simp only [reportedUsage, husage]

namespace ClearsTurn

variable {body cleared : Json}

theorem member?_eq (hclears : ClearsTurn body cleared) {name : String}
    (husage : "usage" ≠ name) (hcontent : "content" ≠ name) :
    cleared.member? name = body.member? name := by
  cases hclears with
  | usage hclears => exact hclears.member?_of_ne husage
  | content hdrops => exact hdrops.member?_of_ne hcontent
  | id hat => exact hat.member?_of_ne hcontent
  | unread hat => exact hat.member?_of_ne hcontent

theorem readBlocks_eq (hclears : ClearsTurn body cleared) :
    Anthropic.readBlocks cleared = Anthropic.readBlocks body := by
  cases hclears with
  | usage husage =>
      rw [Anthropic.readBlocks, Anthropic.readBlocks, husage.member?_of_ne (by decide)]
  | content hdrops => rw [Anthropic.readBlocks, Anthropic.readBlocks, hdrops.bind_eq rfl]
  | id hat =>
      exact Anthropic.readBlocks_of_at hat fun _ _ => Anthropic.decodeBlock_of_drops_id
  | unread hat =>
      exact Anthropic.readBlocks_of_at hat fun _ _ hboth =>
        Anthropic.decodeBlock_of_drops_input hboth.1 hboth.2

theorem reportedUsage_eq (hclears : ClearsTurn body cleared) :
    anthropic.reportedUsage cleared = anthropic.reportedUsage body := by
  cases hclears with
  | usage husage => simp only [reportedUsage, husage.tokenCount_eq]
  | content hdrops => exact reportedUsage_of_turn (hdrops.member?_of_ne (by decide))
  | id hat => exact reportedUsage_of_turn (hat.member?_of_ne (by decide))
  | unread hat => exact reportedUsage_of_turn (hat.member?_of_ne (by decide))

end ClearsTurn

theorem Anthropic.parseReply_of_clears {body cleared : Json} (hclears : ClearsTurn body cleared)
    (hquotes : ¬anthropic.Quotes body) :
    Anthropic.parseReply cleared = Anthropic.parseReply body := by
  have htype : textMember? "type" cleared = textMember? "type" body := by
    rw [textMember?, textMember?, hclears.member?_eq (by decide) (by decide)]
  by_cases hfault : textMember? "type" body = some "error"
  · exact parseReply_of_reported hfault hquotes (hclears.member?_eq (by decide) (by decide))
      (hclears.member?_eq (by decide) (by decide))
  · rw [parseReply_of_ne_error hfault, parseReply_of_ne_error (htype ▸ hfault),
      hclears.readBlocks_eq, hclears.reportedUsage_eq]

/-! ## Candidates -/

namespace Google

variable {part body candidate cleared changed : Json} {change : Json → Json → Prop}

/-- The blocks of a candidate. -/
def readParts (candidate : Json) : Except RunError (List Block) :=
  (itemsOf ((candidate.member? "content").bind (Json.member? "parts"))).mapM decodePart

/-- The blocks of a reply. -/
def readBlocks (body : Json) : Except RunError (List Block) :=
  match firstItem? "candidates" body with
  | none => .error (.providerApi provider "no candidates in response")
  | some candidate => readParts candidate

theorem parseReply_of_error {reason : String} (herror : errorMessage? body = some reason) :
    parseReply body = .error (.providerApi provider reason) := by
  rw [parseReply, herror]
  rfl

theorem parseReply_of_no_error (herror : errorMessage? body = none) :
    parseReply body =
      (readBlocks body).map fun blocks => (⟨.assistant, blocks⟩, google.reportedUsage body) := by
  rw [parseReply, herror, readBlocks]
  cases firstItem? "candidates" body with
  | none => rfl
  | some candidate =>
      dsimp only [readParts, itemsOf]
      cases ((((candidate.member? "content").bind (Json.member? "parts")).bind
        Json.asArray?).getD []).mapM decodePart <;> rfl

/-- The parts of two candidates that differ in one of them. -/
theorem exists_of_atPart (hat : AtPart change candidate changed) :
    ∃ old new, AtItem change old new ∧
      readParts candidate = (itemsOf (some old)).mapM decodePart ∧
      readParts changed = (itemsOf (some new)).mapM decodePart := by
  obtain ⟨content, other, hparts, hcontent, hother⟩ := hat.exists_members
  obtain ⟨old, new, hitem, hold, hnew⟩ := hparts.exists_members
  refine ⟨old, new, hitem, ?_, ?_⟩
  · rw [readParts, hcontent, Option.bind_some, hold]
  · rw [readParts, hother, Option.bind_some, hnew]

/-- Parts that are read alike may stand for one another. -/
theorem readParts_of_atPart (hat : AtPart change candidate changed)
    (hsame : ∀ old new, change old new → decodePart new = decodePart old) :
    readParts changed = readParts candidate := by
  obtain ⟨old, new, hitem, hold, hnew⟩ := exists_of_atPart hat
  rw [hold, hnew, mapM_itemsOf_of_at hitem hsame]

/-- Candidates that are read alike may stand for one another. -/
theorem readBlocks_of_at (hat : AtMember "candidates" (AtItem change) body changed)
    (hsame : ∀ old new, change old new → readParts new = readParts old) :
    readBlocks changed = readBlocks body := by
  rcases firstItem?_of_at hat with hfirst | ⟨old, new, hchange, hold, hnew⟩
  · rw [readBlocks, readBlocks, hfirst]
  · rw [readBlocks, readBlocks, hold, hnew]
    exact hsame old new hchange

/-- Candidates behind the first are not read. -/
theorem readBlocks_of_later (hat : AtMember "candidates" (AtLater change) body changed) :
    readBlocks changed = readBlocks body := by
  obtain ⟨_, _, ⟨first, rest, others, -, rfl, rfl⟩, hold, hnew⟩ := hat.exists_members
  rw [readBlocks, readBlocks, firstItem?, firstItem?, hold, hnew]
  rfl

theorem readParts_of_drops_content (hdrops : DropsNull "content" candidate cleared) :
    readParts cleared = readParts candidate := by
  rw [readParts, readParts, hdrops.bind_eq rfl]

theorem decodePart_of_drops_id (hat : AtMember "functionCall" (DropsNull "id") part cleared) :
    decodePart cleared = decodePart part := by
  obtain ⟨old, new, hdrops, hold, hnew⟩ := hat.exists_members
  unfold decodePart
  simp only [textMember?_of_at hat (by decide : "functionCall" ≠ "text"), hold, hnew,
    textMember?_of_drops hdrops, hdrops.member?_of_ne (by decide : "id" ≠ "args")]

/-- The call of a part with a text is not read. -/
theorem decodePart_of_drops_args (htext : textMember? "text" part ≠ none)
    (hat : AtMember "functionCall" (DropsNull "args") part cleared) :
    decodePart cleared = decodePart part := by
  obtain ⟨text, hsome⟩ := Option.ne_none_iff_exists'.mp htext
  unfold decodePart
  simp only [textMember?_of_at hat (by decide : "functionCall" ≠ "text"), hsome]

/-- Arguments that are null stay null, and missing ones become the empty object. -/
theorem decodePart_fills (htext : textMember? "text" part = none)
    (hat : AtMember "functionCall" (DropsNull "args") part cleared) :
    (∃ error, decodePart part = .error error ∧ decodePart cleared = .error error) ∨
      ∃ call, call.arguments = .null ∧ decodePart part = .ok (.call call) ∧
        decodePart cleared = .ok (.call { call with arguments := .object [] }) := by
  obtain ⟨old, new, hdrops, hold, hnew⟩ := hat.exists_members
  unfold decodePart
  simp only [textMember?_of_at hat (by decide : "functionCall" ≠ "text"), htext, hold, hnew,
    textMember?_of_drops hdrops, hdrops.member?_eq_null, hdrops.member?_eq_none, Option.getD_none]
  cases textMember? "name" old with
  | none => exact .inl ⟨_, rfl, rfl⟩
  | some name => exact .inr ⟨_, rfl, rfl, rfl⟩

end Google

namespace ClearsCandidates

variable {body cleared : Json}

theorem error_eq (hclears : ClearsCandidates body cleared) :
    cleared.member? "error" = body.member? "error" := by
  cases hclears with
  | usage husage => exact husage.member?_of_ne (by decide)
  | content hat => exact hat.member?_of_ne (by decide)
  | id hat => exact hat.member?_of_ne (by decide)
  | unread hat => exact hat.member?_of_ne (by decide)
  | later hat => exact hat.member?_of_ne (by decide)

theorem readBlocks_eq (hclears : ClearsCandidates body cleared) :
    Google.readBlocks cleared = Google.readBlocks body := by
  cases hclears with
  | usage husage =>
      rw [Google.readBlocks, Google.readBlocks, firstItem?, firstItem?,
        husage.member?_of_ne (by decide)]
  | content hat => exact Google.readBlocks_of_at hat fun _ _ => Google.readParts_of_drops_content
  | id hat =>
      exact Google.readBlocks_of_at hat fun _ _ hpart =>
        Google.readParts_of_atPart hpart fun _ _ => Google.decodePart_of_drops_id
  | unread hat =>
      exact Google.readBlocks_of_at hat fun _ _ hpart =>
        Google.readParts_of_atPart hpart fun _ _ hboth =>
          Google.decodePart_of_drops_args hboth.1 hboth.2
  | later hat => exact Google.readBlocks_of_later hat

theorem reportedUsage_eq (hclears : ClearsCandidates body cleared) :
    google.reportedUsage cleared = google.reportedUsage body := by
  cases hclears with
  | usage husage => simp only [reportedUsage, husage.tokenCount_eq]
  | content hat => exact reportedUsage_of_candidates (hat.member?_of_ne (by decide))
  | id hat => exact reportedUsage_of_candidates (hat.member?_of_ne (by decide))
  | unread hat => exact reportedUsage_of_candidates (hat.member?_of_ne (by decide))
  | later hat => exact reportedUsage_of_candidates (hat.member?_of_ne (by decide))

end ClearsCandidates

theorem Google.parseReply_of_clears {body cleared : Json} (hclears : ClearsCandidates body cleared) :
    Google.parseReply cleared = Google.parseReply body := by
  have herror : errorMessage? cleared = errorMessage? body := by
    rw [errorMessage?, errorMessage?, hclears.error_eq]
  cases hreported : errorMessage? body with
  | some reason => rw [parseReply_of_error hreported, parseReply_of_error (herror.trans hreported)]
  | none =>
      rw [parseReply_of_no_error hreported, parseReply_of_no_error (herror.trans hreported),
        hclears.readBlocks_eq, hclears.reportedUsage_eq]

/-! ## Replies -/

/-- Whether two replies are refused alike, or read as messages that differ in one call, whose
arguments are null in the first and the empty object in the second. -/
def FillsReply (backend : Backend) (model : Model) (body cleared : Json) : Prop :=
  (∃ error, backend.decode body model = .error error ∧
      backend.decode cleared model = .error error) ∨
    ∃ front call back usage, call.arguments = .null ∧
      backend.decode body model =
        .ok (.priced [⟨.assistant, front ++ .call call :: back⟩] usage model) ∧
      backend.decode cleared model =
        .ok (.priced [⟨.assistant, front ++ .call { call with arguments := .object [] } :: back⟩]
          usage model)

/-- Whether a backend looks for an error in a reply. -/
def HeedsError (backend : Backend) (body : Json) : Prop :=
  backend = anthropic → textMember? "type" body = some "error"

section Replies

variable {backend : Backend} {model : Model} {body cleared : Json}

theorem FillsArguments.fillsReply {blocks filled : Except RunError (List Block)}
    {usage : TokenUsage} (hfills : FillsArguments blocks filled) (backend : Backend)
    (hbody : backend.parseReply body = blocks.map fun content => (⟨.assistant, content⟩, usage))
    (hcleared : backend.parseReply cleared =
      filled.map fun content => (⟨.assistant, content⟩, usage)) (model : Model) :
    backend.FillsReply model body cleared := by
  rcases hfills with ⟨error, rfl, rfl⟩ | ⟨front, call, back, hnull, rfl, rfl⟩
  · left
    exact ⟨error, by rw [decode, hbody]; rfl, by rw [decode, hcleared]; rfl⟩
  · right
    exact ⟨front, call, back, usage, hnull, by rw [decode, hbody]; rfl,
      by rw [decode, hcleared]; rfl⟩

theorem fillsReply_of_error {error : RunError} (backend : Backend)
    (hbody : backend.parseReply body = .error error)
    (hcleared : backend.parseReply cleared = .error error) (model : Model) :
    backend.FillsReply model body cleared := by
  left
  exact ⟨error, by rw [decode, hbody]; rfl, by rw [decode, hcleared]; rfl⟩

theorem decode_of_quotes (hquotes : backend.Quotes body) (model : Model) :
    backend.decode body model = .error (.providerApi backend.name body.render) := by
  obtain ⟨rfl, hfault, hnone⟩ := hquotes
  have hreply : anthropic.parseReply body = .error (.providerApi anthropic.name body.render) := by
    change Anthropic.parseReply body = _
    rw [Anthropic.parseReply_of_error hfault, errorMessage?_eq_none_iff.mpr hnone]
    rfl
  rw [decode, hreply]
  rfl

theorem quotes_iff_of_members (htype : cleared.member? "type" = body.member? "type")
    (herror : cleared.member? "error" = body.member? "error") :
    backend.Quotes cleared ↔ backend.Quotes body := by
  rw [Quotes, Quotes, textMember?, textMember?, htype, herror]

theorem quotes_iff_of_clears (hclears : backend.Clears body cleared) :
    backend.Quotes cleared ↔ backend.Quotes body := by
  cases backend with
  | anthropic =>
      exact quotes_iff_of_members (ClearsTurn.member?_eq hclears (by decide) (by decide))
        (ClearsTurn.member?_eq hclears (by decide) (by decide))
  | _ => exact iff_of_false (fun hquotes => nomatch hquotes.1) fun hquotes => nomatch hquotes.1

theorem quotes_iff_of_clearsArguments (hclears : backend.ClearsArguments body cleared) :
    backend.Quotes cleared ↔ backend.Quotes body := by
  cases backend with
  | anthropic =>
      exact quotes_iff_of_members (AtMember.member?_of_ne hclears (by decide))
        (AtMember.member?_of_ne hclears (by decide))
  | _ => exact iff_of_false (fun hquotes => nomatch hquotes.1) fun hquotes => nomatch hquotes.1

/-- One null member that counts for nothing. -/
theorem parseReply_of_clears (hclears : backend.Clears body cleared)
    (hquotes : ¬backend.Quotes body) : backend.parseReply cleared = backend.parseReply body := by
  cases backend with
  | openAi service => exact OpenAi.parseReply_of_clears hclears
  | anthropic => exact Anthropic.parseReply_of_clears hclears hquotes
  | google => exact Google.parseReply_of_clears hclears
  | mistral => exact Mistral.parseReply_of_clears hclears

/-- Any number of null members that count for nothing. -/
theorem parseReply_of_clears_many (hclears : Relation.ReflTransGen backend.Clears body cleared) :
    (backend.Quotes cleared ↔ backend.Quotes body) ∧
      (¬backend.Quotes body → backend.parseReply cleared = backend.parseReply body) := by
  induction hclears with
  | refl => exact ⟨Iff.rfl, fun _ => rfl⟩
  | tail hmany hstep ih =>
      obtain ⟨hsame, hread⟩ := ih
      refine ⟨(quotes_iff_of_clears hstep).trans hsame, fun hquotes => ?_⟩
      rw [parseReply_of_clears hstep (hsame.not.mpr hquotes), hread hquotes]

theorem Anthropic.fillsReply_of_clears (hclears : anthropic.ClearsArguments body cleared)
    (hquotes : ¬anthropic.Quotes body) (model : Model) :
    anthropic.FillsReply model body cleared := by
  have hother {name : String} (hname : "content" ≠ name) :
      cleared.member? name = body.member? name := AtMember.member?_of_ne hclears hname
  have htype : textMember? "type" cleared = textMember? "type" body := by
    rw [textMember?, textMember?, hother (by decide)]
  by_cases hfault : textMember? "type" body = some "error"
  · have hsame : parseReply cleared = parseReply body :=
      parseReply_of_reported hfault hquotes (hother (by decide)) (hother (by decide))
    exact fillsReply_of_error anthropic (parseReply_of_error hfault)
      (hsame.trans (parseReply_of_error hfault)) model
  · obtain ⟨old, new, hitem, hold, hnew⟩ := hclears.exists_members
    have hfills : FillsArguments (readBlocks body) (readBlocks cleared) := by
      rw [readBlocks_of_array hold hitem.exists_items.1,
        readBlocks_of_array hnew hitem.exists_items.2]
      exact fillsArguments_of_at hitem fun _ _ hboth => decodeBlock_fills hboth.1 hboth.2
    refine hfills.fillsReply anthropic (parseReply_of_ne_error hfault) ?_ model
    rw [← reportedUsage_of_turn (hother (by decide))]
    exact parseReply_of_ne_error (htype ▸ hfault)

theorem Google.fillsReply_of_clears (hclears : google.ClearsArguments body cleared)
    (model : Model) : google.FillsReply model body cleared := by
  have hother {name : String} (hname : "candidates" ≠ name) :
      cleared.member? name = body.member? name := AtMember.member?_of_ne hclears hname
  have herror : errorMessage? cleared = errorMessage? body := by
    rw [errorMessage?, errorMessage?, hother (by decide)]
  cases hreported : errorMessage? body with
  | some reason =>
      exact fillsReply_of_error google (parseReply_of_error hreported)
        (parseReply_of_error (herror.trans hreported)) model
  | none =>
      obtain ⟨_, _, ⟨old, new, rest, hpart, rfl, rfl⟩, hold, hnew⟩ := hclears.exists_members
      obtain ⟨parts, others, hitem, hparts, hothers⟩ := exists_of_atPart hpart
      have hfills : FillsArguments (readBlocks body) (readBlocks cleared) := by
        rw [readBlocks, readBlocks, firstItem?, firstItem?, hold, hnew]
        change FillsArguments (readParts old) (readParts new)
        rw [hparts, hothers]
        exact fillsArguments_of_at hitem fun _ _ hboth => decodePart_fills hboth.1 hboth.2
      refine hfills.fillsReply google (parseReply_of_no_error hreported) ?_ model
      rw [← reportedUsage_of_candidates (hother (by decide))]
      exact parseReply_of_no_error (herror.trans hreported)

theorem fillsReply_of_clears (hclears : backend.ClearsArguments body cleared)
    (hquotes : ¬backend.Quotes body) (model : Model) : backend.FillsReply model body cleared := by
  cases backend with
  | openAi service => exact hclears.elim
  | anthropic => exact Anthropic.fillsReply_of_clears hclears hquotes model
  | google => exact Google.fillsReply_of_clears hclears model
  | mistral => exact hclears.elim

/-! ## Errors that are null -/

/-- An error that is null is reported as any other. -/
theorem errorMessage?_of_drops (hdrops : DropsNull "error" body cleared) :
    errorMessage? body = some "null" ∧ errorMessage? cleared = none := by
  rw [errorMessage?, errorMessage?, hdrops.member?_eq_null, hdrops.member?_eq_none]
  exact ⟨rfl, rfl⟩

theorem decode_of_null_error (hheeds : backend.HeedsError body)
    (hdrops : DropsNull "error" body cleared) (model : Model) :
    backend.decode body model = .error (.providerApi backend.name "null") := by
  obtain ⟨hnull, -⟩ := errorMessage?_of_drops hdrops
  have hreply : backend.parseReply body = .error (.providerApi backend.name "null") := by
    cases backend with
    | openAi service =>
        change OpenAi.parseReply service.name body = _
        rw [OpenAi.parseReply, OpenAi.replyMessage, hnull]
        rfl
    | anthropic =>
        change Anthropic.parseReply body = _
        rw [Anthropic.parseReply_of_error (hheeds rfl), hnull]
        rfl
    | google => exact Google.parseReply_of_error hnull
    | mistral =>
        change Mistral.parseReply body = _
        rw [Mistral.parseReply, OpenAi.replyMessage, hnull]
        rfl
  rw [decode, hreply]
  rfl

theorem avoids_replyMessage_of_no_error {provider : String} (hnone : errorMessage? cleared = none) :
    Attempt.Avoids (· = .providerApi provider "null") (OpenAi.replyMessage provider cleared) := by
  unfold OpenAi.replyMessage
  rw [hnone]
  dsimp only
  split
  next => exact .ok _
  next => exact .error (by simp)

theorem render_object_ne_null (members : List (String × Json)) :
    (Json.object members).render ≠ "null" := by
  intro hsame
  have hchars := congrArg String.toList hsame
  rw [Json.render, String.toList_ofList, Json.chars] at hchars
  exact absurd (List.cons.inj hchars).1 (by decide)

theorem decode_of_dropped_error (hheeds : backend.HeedsError body)
    (hdrops : DropsNull "error" body cleared) (model : Model) :
    backend.decode cleared model ≠ .error (.providerApi backend.name "null") := by
  obtain ⟨-, hnone⟩ := errorMessage?_of_drops hdrops
  have hconversion : ∀ provider reason,
      ¬(RunError.conversion provider reason = .providerApi backend.name "null") := by
    intro provider reason
    exact RunError.noConfusion
  have havoids : Attempt.Avoids (· = .providerApi backend.name "null")
      (backend.parseReply cleared) := by
    cases backend with
    | openAi service =>
        exact OpenAi.avoids_parseReply hconversion (avoids_replyMessage_of_no_error hnone)
    | anthropic =>
        have hfault : textMember? "type" cleared = some "error" := by
          rw [textMember?_of_drops hdrops, hheeds rfl]
        change Attempt.Avoids _ (Anthropic.parseReply cleared)
        rw [Anthropic.parseReply_of_error hfault, hnone, Option.getD_none]
        obtain ⟨front, back, -, -, rfl⟩ := hdrops
        refine .error fun hsame => render_object_ne_null (front ++ back) ?_
        exact (RunError.providerApi.inj hsame).2
    | google =>
        refine Google.avoids_parseReply hconversion ?_ (by simp)
        intro reason hreason
        rw [hnone] at hreason
        cases hreason
    | mistral =>
        exact Mistral.avoids_parseReply hconversion (avoids_replyMessage_of_no_error hnone)
  intro herror
  exact (havoids.map _) _ herror rfl

/-- A backend that does not look for an error does not see one. -/
theorem decode_of_unheeded_error (hheeds : ¬backend.HeedsError body)
    (hdrops : DropsNull "error" body cleared) (model : Model) :
    backend.decode cleared model = backend.decode body model := by
  obtain ⟨rfl, hfault⟩ := Classical.not_imp.mp hheeds
  have hblocks : Anthropic.readBlocks cleared = Anthropic.readBlocks body := by
    rw [Anthropic.readBlocks, Anthropic.readBlocks, hdrops.member?_of_ne (by decide)]
  have hreply : Anthropic.parseReply cleared = Anthropic.parseReply body := by
    rw [Anthropic.parseReply_of_ne_error hfault,
      Anthropic.parseReply_of_ne_error (textMember?_of_drops hdrops "type" ▸ hfault), hblocks,
      reportedUsage_of_turn (hdrops.member?_of_ne (by decide))]
  exact congrArg (Except.map _) hreply

end Replies

/-- Leaving out null members of a reply changes nothing, but for two of them.  The null arguments of
a call that a backend takes as they are sent stay null, and become the empty object once they are
left out.  A null error is reported as an error wherever a backend looks for one, and never is once
it is left out.  An error without a text of its own is reported with the whole reply, so with the
null members that it has. -/
theorem reply_without_null_members (backend : Backend) (model : Model) {body cleared : Json} :
    (Relation.ReflTransGen backend.Clears body cleared →
      (backend.Quotes cleared ↔ backend.Quotes body) ∧
        (¬backend.Quotes body → backend.decode cleared model = backend.decode body model)) ∧
    (backend.ClearsArguments body cleared →
      (backend.Quotes cleared ↔ backend.Quotes body) ∧
        (¬backend.Quotes body → backend.FillsReply model body cleared)) ∧
    (DropsNull "error" body cleared →
      (backend.HeedsError body →
        backend.decode body model = .error (.providerApi backend.name "null") ∧
          backend.decode cleared model ≠ .error (.providerApi backend.name "null")) ∧
        (¬backend.HeedsError body → backend.decode cleared model = backend.decode body model)) ∧
    (backend.Quotes body →
      backend.decode body model = .error (.providerApi backend.name body.render)) := by
  refine ⟨fun hclears => ?_, fun hclears => ?_, fun hdrops => ⟨fun hheeds => ⟨?_, ?_⟩, ?_⟩, ?_⟩
  · obtain ⟨hsame, hread⟩ := parseReply_of_clears_many hclears
    exact ⟨hsame, fun hquotes => congrArg (Except.map _) (hread hquotes)⟩
  · exact ⟨quotes_iff_of_clearsArguments hclears, fun hquotes =>
      fillsReply_of_clears hclears hquotes model⟩
  · exact decode_of_null_error hheeds hdrops model
  · exact decode_of_dropped_error hheeds hdrops model
  · exact fun hheeds => decode_of_unheeded_error hheeds hdrops model
  · exact fun hquotes => decode_of_quotes hquotes model

/-- A chat completion of one word, with members of its own. -/
def greeting (members : List (String × Json)) : Json :=
  .object (members ++ [("choices", .array [.object [("message",
    .object [("content", .string "hi")])]])])

/-- A turn of one call, which has members of its own. -/
def asking (members : List (String × Json)) : Json :=
  .object [("content", .array [.object (members ++
    [("name", .string "f"), ("type", .string "tool_use")])])]

theorem reply_without_null_members_greeting :
    (openAi OpenAi.openAi).decode (greeting []) (.of "m" "OpenAI" 0 0 1) =
        (openAi OpenAi.openAi).decode (greeting [("usage", .null)]) (.of "m" "OpenAI" 0 0 1) ∧
      anthropic.FillsReply (.of "m" "Anthropic" 0 0 1) (asking [("input", .null)]) (asking []) ∧
      (openAi OpenAi.openAi).decode (greeting [("error", .null)]) (.of "m" "OpenAI" 0 0 1) =
        .error (.providerApi "OpenAI" "null") ∧
      (openAi OpenAi.openAi).decode (greeting []) (.of "m" "OpenAI" 0 0 1) ≠
        .error (.providerApi "OpenAI" "null") ∧
      anthropic.decode (.object [("type", .string "error")]) (.of "m" "Anthropic" 0 0 1) =
        .error (.providerApi "Anthropic" "\x7b\"type\":\"error\"\x7d") := by
  have hdropsUsage : DropsNull "usage" (greeting [("usage", .null)]) (greeting []) :=
    ⟨[], _, by decide, rfl, rfl⟩
  have hdropsError : DropsNull "error" (greeting [("error", .null)]) (greeting []) :=
    ⟨[], _, by decide, rfl, rfl⟩
  have hclears : (openAi OpenAi.openAi).Clears (greeting [("usage", .null)]) (greeting []) :=
    .usage (.whole hdropsUsage)
  have harguments : anthropic.ClearsArguments (asking [("input", .null)]) (asking []) :=
    ⟨[], _, _, [], by decide, ⟨[], _, _, [], ⟨rfl, [], _, by decide, rfl, rfl⟩, rfl, rfl⟩, rfl, rfl⟩
  have hquotes : ¬anthropic.Quotes (asking [("input", .null)]) := fun hquotes =>
    nomatch hquotes.2.1
  obtain ⟨herror, -⟩ :=
    (reply_without_null_members (openAi OpenAi.openAi) (.of "m" "OpenAI" 0 0 1)).2.2.1 hdropsError
  obtain ⟨hnull, hother⟩ := herror fun hsame => nomatch hsame
  refine ⟨?_, ?_, hnull, hother, ?_⟩
  · exact ((reply_without_null_members (openAi OpenAi.openAi) (.of "m" "OpenAI" 0 0 1)).1
      (.single hclears)).2 fun hquotes => nomatch hquotes.1
  · exact ((reply_without_null_members anthropic (.of "m" "Anthropic" 0 0 1)).2.1 harguments).2
      hquotes
  · exact (@reply_without_null_members anthropic (.of "m" "Anthropic" 0 0 1)
      (.object [("type", .string "error")]) .null).2.2.2 ⟨rfl, rfl, rfl⟩

end PromptScript.Backend
