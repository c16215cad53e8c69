import PromptScript.Backend.Registry
import PromptScript.Proofs.Attempt
import PromptScript.Proofs.Json.Members

/-!
# The entries of a reply

A reply is a list of entries: the parts of its content, or one text in their place, and its calls.
It is read exactly if each of its entries is, and then as one message of the assistant that has one
block for each entry, in order.  An entry that a format does not know makes the whole reply an
error.
-/

namespace PromptScript.Backend

/-! ## Entries -/

/-- What a reply holds: a text that stands alone, a part of its content or one of its calls. -/
inductive Entry where
  | words (text : String)
  | part (part : Json)
  | call (call : Json)

/-- The items of a value that is an array. -/
def itemsOf (value : Option Json) : List Json :=
  (value.bind Json.asArray?).getD []

/-- The message of a chat completion. -/
def chatMessage? (body : Json) : Option Json :=
  (firstItem? "choices" body).bind (Json.member? "message")

/-- The entries of a message's content: a text that is not empty, or the parts of an array. -/
def contentEntries (message : Json) : List Entry :=
  match message.member? "content" with
  | some (.string text) => if text.isEmpty then [] else [.words text]
  | some (.array parts) => parts.map .part
  | _ => []

/-- The entries of what a message says: its content, or a refusal where there is none. -/
def spokenEntries (message : Json) : List Entry :=
  if (contentEntries message).isEmpty then ((textMember? "refusal" message).map .words).toList
  else contentEntries message

/-- The entries of the calls that a message asks for. -/
def callEntries (message : Json) : List Entry :=
  (itemsOf (message.member? "tool_calls")).map .call

/-- The entries of a reply, in order. -/
def entries (backend : Backend) (body : Json) : List Entry :=
  match backend with
  | openAi _ =>
    (chatMessage? body).elim [] fun message => spokenEntries message ++ callEntries message
  | mistral =>
    (chatMessage? body).elim [] fun message => contentEntries message ++ callEntries message
  | anthropic => (itemsOf (body.member? "content")).map .part
  | google =>
    (itemsOf (((firstItem? "candidates" body).bind (Json.member? "content")).bind
      (Json.member? "parts"))).map .part

/-- Whether the content of a message is missing, null, a text or an array. -/
def HasContent (message : Json) : Prop :=
  match message.member? "content" with
  | none | some .null | some (.string _) | some (.array _) => True
  | some _ => False

/-- Whether a body is the reply of a model: it reports no error, and it has what the entries are
taken from. -/
def Answers (backend : Backend) (body : Json) : Prop :=
  match backend with
  | openAi _ | mistral =>
    body.member? "error" = none ∧ ∃ message, chatMessage? body = some message ∧ HasContent message
  | anthropic =>
    textMember? "type" body ≠ some "error" ∧ ∃ items, body.member? "content" = some (.array items)
  | google =>
    body.member? "error" = none ∧ ∃ candidate, firstItem? "candidates" body = some candidate

/-! ## What entries tell -/

/-- Whether a value stands for the arguments of a call: a blank text, null and nothing at all stand
for none, another text for the value that it writes, and any other value for itself. -/
def ReadsArguments (source : Option Json) (arguments : Json) : Prop :=
  match source with
  | none | some .null => arguments = .object []
  | some (.string text) =>
    if Text.isBlankText text.toList then arguments = .object []
    else Json.parse text = .ok arguments
  | some other => arguments = other

/-- Whether a chat completion asks for a call by an entry of its calls. -/
def AsksFor (entry : Json) (call : Call) : Prop :=
  ∃ function name arguments, entry.member? "function" = some function ∧
    textMember? "name" function = some name ∧
    ReadsArguments (function.member? "arguments") arguments ∧
    call = ⟨(textMember? "id" entry).getD "", name, arguments⟩

/-- Whether a block says what an entry of a reply does.  A call without an identifier has the empty
one. -/
def Tells (backend : Backend) : Entry → Block → Prop
  | .words said, block => block = .text said
  | .part part, .text text =>
    match backend with
    | openAi _ => textMember? "type" part = some "text" ∧ textMember? "text" part = some text
    | mistral | anthropic =>
      textMember? "type" part = some "text" ∧ text = (textMember? "text" part).getD ""
    | google => textMember? "text" part = some text
  | .part part, .call call =>
    match backend with
    | openAi _ | mistral => False
    | anthropic => textMember? "type" part = some "tool_use" ∧ ∃ name,
      textMember? "name" part = some name ∧
        call = ⟨(textMember? "id" part).getD "", name, (part.member? "input").getD (.object [])⟩
    | google => textMember? "text" part = none ∧ ∃ function name,
      part.member? "functionCall" = some function ∧ textMember? "name" function = some name ∧
        call = ⟨(textMember? "id" function).getD "", name,
          (function.member? "args").getD (.object [])⟩
  | .call entry, .call call =>
    match backend with
    | openAi _ => (∀ kind, textMember? "type" entry = some kind → kind = "function") ∧
      AsksFor entry call
    | mistral => AsksFor entry call
    | anthropic | google => False
  | _, _ => False

/-- Whether a value is a text that stands for no arguments: it is neither blank nor JSON. -/
def Garbled (source : Option Json) : Prop :=
  match source with
  | some (.string text) =>
    Text.isBlankText text.toList = false ∧ ∃ error, Json.parse text = .error error
  | _ => False

/-- Whether an entry asks for no call: its function has no name, or the text of its arguments is
neither blank nor JSON. -/
def AsksForNone (entry : Json) : Prop :=
  (∀ function, entry.member? "function" = some function → textMember? "name" function = none) ∨
    ∃ function, entry.member? "function" = some function ∧ Garbled (function.member? "arguments")

/-- Whether an entry makes the whole reply an error: it is of a type that the format does not know,
it is a call without a name, or the text of its arguments is no JSON. -/
def Refused (backend : Backend) : Entry → Prop
  | .words _ => False
  | .part part =>
    match backend with
    | openAi _ => textMember? "type" part ≠ some "text" ∨ textMember? "text" part = none
    | mistral => textMember? "type" part ≠ some "text"
    | anthropic => textMember? "type" part ≠ some "text" ∧
      (textMember? "type" part = some "tool_use" → textMember? "name" part = none)
    | google => textMember? "text" part = none ∧
      ∀ function, part.member? "functionCall" = some function → textMember? "name" function = none
  | .call entry =>
    match backend with
    | openAi _ => (∃ kind, textMember? "type" entry = some kind ∧ kind ≠ "function") ∨
      AsksForNone entry
    | mistral => AsksForNone entry
    | anthropic | google => True

variable {backend : Backend}

/-- What an entry tells is a text or a call. -/
theorem Tells.text_or_call {entry : Entry} {block : Block} (htells : backend.Tells entry block) :
    (∃ text, block = .text text) ∨ ∃ call, block = .call call := by
  cases block with
  | text text => exact .inl ⟨text, rfl⟩
  | call call => exact .inr ⟨call, rfl⟩
  | image picture => cases entry <;> exact nomatch htells
  | result answer => cases entry <;> exact nomatch htells

/-! ## Reading entry by entry -/

theorem decodeArguments_eq_ok_iff {provider : String} {source : Option Json} {arguments : Json} :
    decodeArguments provider source = .ok arguments ↔ ReadsArguments source arguments := by
  unfold decodeArguments
  split
  next =>
    rw [Except.ok.injEq]
    exact eq_comm
  next =>
    rw [Except.ok.injEq]
    exact eq_comm
  next text =>
    simp only [ReadsArguments]
    split
    next =>
      rw [Except.ok.injEq]
      exact eq_comm
    next => split <;> simp [*]
  next other hnull htext =>
    cases other
    all_goals simp_all [ReadsArguments, eq_comm]

theorem Anthropic.decodeBlock_eq_ok_iff {part : Json} {block : Block} :
    Anthropic.decodeBlock part = .ok block ↔ anthropic.Tells (.part part) block := by
  unfold Anthropic.decodeBlock
  cases htype : textMember? "type" part with
  | none => cases block <;> simp [Tells, htype]
  | some kind =>
      rw [Option.getD_some]
      split
      next => cases block <;> simp [Tells, htype, eq_comm]
      next => split <;> cases block <;> simp [Tells, eq_comm, *]
      next htext huse => cases block <;> simp_all [Tells]

theorem Google.decodePart_eq_ok_iff {part : Json} {block : Block} :
    Google.decodePart part = .ok block ↔ google.Tells (.part part) block := by
  unfold Google.decodePart
  split
  next text htext => cases block <;> simp [Tells, htext]
  next htext =>
    split
    next function hfunction => split <;> cases block <;> simp [Tells, eq_comm, *]
    next hfunction => cases block <;> simp [Tells, htext, hfunction]

theorem Mistral.decodePart_eq_ok_iff {part : Json} {block : Block} :
    Mistral.decodePart part = .ok block ↔ mistral.Tells (.part part) block := by
  unfold Mistral.decodePart
  split
  next htype => cases block <;> simp [Tells, htype, eq_comm]
  next htype => cases block <;> simp_all [Tells]

theorem OpenAi.decodePart_eq_ok_iff {service : OpenAi.Service} {part : Json} {block : Block} :
    OpenAi.decodePart service.name part = .ok block ↔
      (Backend.openAi service).Tells (.part part) block := by
  unfold OpenAi.decodePart
  split
  next text htype htext => cases block <;> simp [Tells, htype, htext]
  next htype => cases block <;> simp_all [Tells]

/-- What is read from an entry of a chat completion's calls. -/
def askedCall (provider : String) (entry : Json) : Except RunError Block :=
  let function := entry.member? "function"
  match function.bind (textMember? "name") with
  | none => .error (.conversion provider "tool call without a name")
  | some name => (decodeArguments provider (function.bind (Json.member? "arguments"))).map
      fun arguments => .call ⟨(textMember? "id" entry).getD "", name, arguments⟩

theorem askedCall_eq_ok_iff {provider : String} {entry : Json} {block : Block} :
    askedCall provider entry = .ok block ↔ ∃ call, block = .call call ∧ AsksFor entry call := by
  unfold askedCall
  cases hfunction : entry.member? "function" with
  | none => simp [AsksFor, hfunction]
  | some function =>
      cases hname : textMember? "name" function with
      | none => simp [AsksFor, hfunction, hname]
      | some name =>
          simp only [Option.bind_some, hname, Attempt.map_eq_ok_iff, decodeArguments_eq_ok_iff]
          constructor
          · rintro ⟨arguments, harguments, rfl⟩
            exact ⟨_, rfl, function, name, arguments, hfunction, hname, harguments, rfl⟩
          · rintro ⟨call, rfl, other, label, arguments, hother, hlabel, harguments, rfl⟩
            rw [hfunction, Option.some.injEq] at hother
            subst hother
            rw [hname, Option.some.injEq] at hlabel
            subst hlabel
            exact ⟨arguments, harguments, rfl⟩

theorem Mistral.decodeCall_eq_ok_iff {entry : Json} {block : Block} :
    Mistral.decodeCall entry = .ok block ↔ mistral.Tells (.call entry) block := by
  have hsame : Mistral.decodeCall entry = askedCall Mistral.provider entry := rfl
  rw [hsame, askedCall_eq_ok_iff]
  cases block <;> simp [Tells]

theorem OpenAi.decodeCall_eq_ok_iff {service : OpenAi.Service} {entry : Json} {block : Block} :
    OpenAi.decodeCall service.name entry = .ok block ↔
      (Backend.openAi service).Tells (.call entry) block := by
  -- A type that is missing, or is no text, passes for that of a function.
  have htyped : (textMember? "type" entry).getD "function" = "function" ↔
      ∀ kind, textMember? "type" entry = some kind → kind = "function" := by
    cases textMember? "type" entry <;> simp
  by_cases hkind : (textMember? "type" entry).getD "function" = "function"
  · have hsame : OpenAi.decodeCall service.name entry = askedCall service.name entry := by
      unfold OpenAi.decodeCall
      rw [if_neg (not_not.mpr hkind)]
      rfl
    rw [hsame, askedCall_eq_ok_iff]
    cases block with
    | call call => simpa [Tells] using fun _ => htyped.mp hkind
    | _ => simp [Tells]
  · have hfails : ∀ block, OpenAi.decodeCall service.name entry ≠ .ok block := by
      intro block
      unfold OpenAi.decodeCall
      rw [if_pos hkind]
      exact fun hok => nomatch hok
    cases block <;> simp [Tells, hfails, ← htyped, hkind]

/-- The blocks of a chat completion's content, whose parts are read one by one. -/
def contentBlocks (provider : String) (read : Json → Except RunError Block) :
    Option Json → Except RunError (List Block)
  | none | some .null => .ok []
  | some (.string text) => .ok (if text.isEmpty then [] else [.text text])
  | some (.array parts) => parts.mapM read
  | some other => .error (.conversion provider ("unexpected content value " ++ other.render))

theorem OpenAi.decodeContent_eq (provider : String) :
    OpenAi.decodeContent provider = contentBlocks provider (OpenAi.decodePart provider) := by
  funext source
  cases source with
  | none => rfl
  | some value => cases value <;> rfl

theorem Mistral.decodeContent_eq :
    Mistral.decodeContent = contentBlocks Mistral.provider Mistral.decodePart := by
  funext source
  cases source with
  | none => rfl
  | some value => cases value <;> rfl

theorem contentBlocks_eq_ok_iff {provider : String} {read : Json → Except RunError Block}
    (hread : ∀ {part block}, read part = .ok block ↔ backend.Tells (.part part) block)
    {message : Json} {blocks : List Block} :
    contentBlocks provider read (message.member? "content") = .ok blocks ↔
      HasContent message ∧ List.Forall₂ backend.Tells (contentEntries message) blocks := by
  unfold contentBlocks HasContent contentEntries
  split
  next hnone => simp [hnone, eq_comm]
  next hnull => simp [hnull, eq_comm]
  next text htext =>
    rw [htext]
    by_cases hempty : text.isEmpty
    · simp [hempty, eq_comm]
    · cases blocks with
      | nil => simp [hempty]
      | cons block rest => cases block <;> simp [hempty, Tells, eq_comm]
  next parts hparts =>
    rw [hparts, Attempt.mapM_eq_ok_iff]
    simp [List.forall₂_map_left_iff, hread]
  next other hnull htext harray hother =>
    rw [hother]
    cases other <;> simp_all

theorem errorMessage?_eq_none_iff {body : Json} :
    errorMessage? body = none ↔ body.member? "error" = none :=
  Option.map_eq_none_iff

theorem OpenAi.replyMessage_eq_ok_iff {provider : String} {body message : Json} :
    OpenAi.replyMessage provider body = .ok message ↔
      body.member? "error" = none ∧ chatMessage? body = some message := by
  unfold OpenAi.replyMessage
  rw [← errorMessage?_eq_none_iff, chatMessage?]
  split
  next reported hreported => simp [hreported]
  next hnone => split <;> simp [*]

/-- The tokens that a reply reports. -/
def reportedUsage (backend : Backend) (body : Json) : TokenUsage :=
  match backend with
  | openAi _ | mistral => OpenAi.usageOf body
  | anthropic =>
    let usage := body.member? "usage"
    ⟨tokenCount usage "input_tokens", tokenCount usage "output_tokens"⟩
  | google =>
    let usage := body.member? "usageMetadata"
    ⟨tokenCount usage "promptTokenCount", tokenCount usage "candidatesTokenCount"⟩

section Lists

variable {α β : Type} {relates : α → β → Prop}

theorem forall₂_append_iff {first second : List α} {results : List β} :
    List.Forall₂ relates (first ++ second) results ↔
      ∃ front back, List.Forall₂ relates first front ∧ List.Forall₂ relates second back ∧
        front ++ back = results := by
  induction first generalizing results with
  | nil => simp
  | cons input rest ih =>
      simp only [List.cons_append, List.forall₂_cons_left_iff, ih]
      constructor
      · rintro ⟨result, later, hresult, ⟨front, back, hfront, hback, rfl⟩, rfl⟩
        exact ⟨result :: front, back, ⟨result, front, hresult, hfront, rfl⟩, hback, rfl⟩
      · rintro ⟨-, back, ⟨result, front, hresult, hfront, rfl⟩, hback, rfl⟩
        exact ⟨result, front ++ back, hresult, ⟨front, back, hfront, hback, rfl⟩, rfl⟩

/-- Every input is related to something exactly if the list of them is. -/
theorem exists_forall₂_iff {inputs : List α} :
    (∃ results, List.Forall₂ relates inputs results) ↔
      ∀ input ∈ inputs, ∃ result, relates input result := by
  induction inputs with
  | nil => simp
  | cons input rest ih =>
      simp only [List.forall₂_cons_left_iff, List.forall_mem_cons, ← ih]
      constructor
      · rintro ⟨-, result, later, hresult, hlater, rfl⟩
        exact ⟨⟨result, hresult⟩, later, hlater⟩
      · rintro ⟨⟨result, hresult⟩, later, hlater⟩
        exact ⟨result :: later, result, later, hresult, hlater, rfl⟩

end Lists

/-- Content is spoken as it is, and a refusal where there is none. -/
theorem forall₂_spokenEntries_iff {service : OpenAi.Service} {message : Json}
    {spoken : List Block} :
    List.Forall₂ (Backend.openAi service).Tells (spokenEntries message) spoken ↔
      ∃ content, List.Forall₂ (Backend.openAi service).Tells (contentEntries message) content ∧
        spoken = if content.isEmpty then ((textMember? "refusal" message).map Block.text).toList
          else content := by
  unfold spokenEntries
  cases contentEntries message with
  | nil =>
      simp only [List.isEmpty_nil, if_true, List.forall₂_nil_left_iff, exists_eq_left]
      cases textMember? "refusal" message with
      | none => simp
      | some refusal => simp [List.forall₂_cons_left_iff, Tells]
  | cons entry rest =>
      simp only [List.isEmpty_cons, Bool.false_eq_true, if_false]
      constructor
      · intro htells
        refine ⟨spoken, htells, ?_⟩
        cases htells
        rfl
      · rintro ⟨content, htells, rfl⟩
        cases htells with
        | cons hfirst hrest => exact .cons hfirst hrest

section Chat

variable {provider : String} {readContent : Option Json → Except RunError (List Block)}
  {readCall : Json → Except RunError Block} {speak : Json → List Block → List Block}
  {said : Json → List Entry}

/-- Reads a chat completion by its content, from which it makes what is spoken, and its calls. -/
def readChat (provider : String) (readContent : Option Json → Except RunError (List Block))
    (speak : Json → List Block → List Block) (readCall : Json → Except RunError Block)
    (body : Json) : Except RunError (Message × TokenUsage) := do
  let message ← OpenAi.replyMessage provider body
  let content ← readContent (message.member? "content")
  let calls ← (itemsOf (message.member? "tool_calls")).mapM readCall
  return (⟨.assistant, speak message content ++ calls⟩, OpenAi.usageOf body)

theorem readChat_eq_ok_iff
    (hcontent : ∀ {message blocks}, readContent (message.member? "content") = .ok blocks ↔
      HasContent message ∧ List.Forall₂ backend.Tells (contentEntries message) blocks)
    (hspeak : ∀ {message spoken}, List.Forall₂ backend.Tells (said message) spoken ↔
      ∃ content, List.Forall₂ backend.Tells (contentEntries message) content ∧
        spoken = speak message content)
    (hcall : ∀ {entry block}, readCall entry = .ok block ↔ backend.Tells (.call entry) block)
    {body : Json} {message : Message} {usage : TokenUsage} :
    readChat provider readContent speak readCall body = .ok (message, usage) ↔
      (body.member? "error" = none ∧
        ∃ source, chatMessage? body = some source ∧ HasContent source) ∧
      message.role = .assistant ∧
      List.Forall₂ backend.Tells
        ((chatMessage? body).elim [] fun source => said source ++ callEntries source)
        message.content ∧
      usage = OpenAi.usageOf body := by
  have hcalls : ∀ source blocks,
      (itemsOf (source.member? "tool_calls")).mapM readCall = .ok blocks ↔
        List.Forall₂ backend.Tells (callEntries source) blocks := by
    intro source blocks
    rw [Attempt.mapM_eq_ok_iff, callEntries, List.forall₂_map_left_iff]
    simp only [hcall]
  simp only [readChat, Attempt.bind_eq_ok_iff, Attempt.pure_eq_ok_iff, Prod.mk.injEq,
    OpenAi.replyMessage_eq_ok_iff, hcontent, hcalls]
  constructor
  · rintro ⟨source, ⟨herror, hsource⟩, content, ⟨hform, htells⟩, calls, hcalled, rfl, rfl⟩
    refine ⟨⟨herror, source, hsource, hform⟩, rfl, ?_, rfl⟩
    rw [hsource, Option.elim_some, forall₂_append_iff]
    exact ⟨_, calls, hspeak.mpr ⟨content, htells, rfl⟩, hcalled, rfl⟩
  · rintro ⟨⟨herror, source, hsource, hform⟩, hrole, htells, rfl⟩
    rw [hsource, Option.elim_some, forall₂_append_iff] at htells
    obtain ⟨spoken, calls, hspoken, hcalled, hblocks⟩ := htells
    obtain ⟨content, htells, rfl⟩ := hspeak.mp hspoken
    refine ⟨source, ⟨herror, hsource⟩, content, ⟨hform, htells⟩, calls, hcalled, ?_, rfl⟩
    rw [hblocks, ← hrole]

end Chat

theorem OpenAi.parseReply_eq_ok_iff {service : OpenAi.Service} {body : Json} {message : Message}
    {usage : TokenUsage} :
    OpenAi.parseReply service.name body = .ok (message, usage) ↔
      (Backend.openAi service).Answers body ∧ message.role = .assistant ∧
        List.Forall₂ (Backend.openAi service).Tells ((Backend.openAi service).entries body)
          message.content ∧
        usage = (Backend.openAi service).reportedUsage body := by
  apply readChat_eq_ok_iff
  · intro source blocks
    rw [OpenAi.decodeContent_eq, contentBlocks_eq_ok_iff OpenAi.decodePart_eq_ok_iff]
  · exact forall₂_spokenEntries_iff
  · exact OpenAi.decodeCall_eq_ok_iff

theorem Mistral.parseReply_eq_ok_iff {body : Json} {message : Message} {usage : TokenUsage} :
    Mistral.parseReply body = .ok (message, usage) ↔
      mistral.Answers body ∧ message.role = .assistant ∧
        List.Forall₂ mistral.Tells (mistral.entries body) message.content ∧
        usage = mistral.reportedUsage body := by
  apply readChat_eq_ok_iff
  · intro source blocks
    rw [Mistral.decodeContent_eq, contentBlocks_eq_ok_iff Mistral.decodePart_eq_ok_iff]
  · intro source spoken
    exact exists_eq_right'.symm
  · exact Mistral.decodeCall_eq_ok_iff

theorem Anthropic.parseReply_eq_ok_iff {body : Json} {message : Message} {usage : TokenUsage} :
    Anthropic.parseReply body = .ok (message, usage) ↔
      anthropic.Answers body ∧ message.role = .assistant ∧
        List.Forall₂ anthropic.Tells (anthropic.entries body) message.content ∧
        usage = anthropic.reportedUsage body := by
  unfold Anthropic.parseReply
  by_cases hfault : textMember? "type" body = some "error"
  · rw [if_pos hfault]
    simp [Answers, hfault]
  rw [if_neg hfault]
  cases hitems : (body.member? "content").bind Json.asArray? with
  | none =>
      have hnone : ∀ items, body.member? "content" ≠ some (.array items) := by
        intro items hmember
        rw [hmember] at hitems
        exact nomatch hitems
      simp [Answers, hnone]
  | some items =>
      have hmember : body.member? "content" = some (.array items) := by
        obtain ⟨value, hvalue, harray⟩ := Option.bind_eq_some_iff.mp hitems
        rw [hvalue, Json.eq_array_of_asArray? harray]
      simp only [Answers, entries, itemsOf, hmember, Attempt.bind_eq_ok_iff, Attempt.pure_eq_ok_iff,
        Prod.mk.injEq, Attempt.mapM_eq_ok_iff, Anthropic.decodeBlock_eq_ok_iff,
        List.forall₂_map_left_iff]
      constructor
      · rintro ⟨content, htells, rfl, rfl⟩
        exact ⟨⟨hfault, items, rfl⟩, rfl, htells, rfl⟩
      · rintro ⟨-, hrole, htells, rfl⟩
        exact ⟨message.content, htells, by rw [← hrole], rfl⟩

theorem Google.parseReply_eq_ok_iff {body : Json} {message : Message} {usage : TokenUsage} :
    Google.parseReply body = .ok (message, usage) ↔
      google.Answers body ∧ message.role = .assistant ∧
        List.Forall₂ google.Tells (google.entries body) message.content ∧
        usage = google.reportedUsage body := by
  unfold Google.parseReply
  cases hfault : errorMessage? body with
  | some reported =>
      have herror : body.member? "error" ≠ none := by
        rw [ne_eq, ← errorMessage?_eq_none_iff, hfault]
        exact fun hnone => nomatch hnone
      simp [Answers, herror]
  | none =>
      rw [errorMessage?_eq_none_iff] at hfault
      cases hcandidate : firstItem? "candidates" body with
      | none => simp [Answers, hcandidate]
      | some candidate =>
          simp only [Answers, entries, itemsOf, hcandidate, Option.bind_some,
            Attempt.pure_eq_ok_iff, Attempt.bind_eq_ok_iff, Prod.mk.injEq, Attempt.mapM_eq_ok_iff,
            Google.decodePart_eq_ok_iff, List.forall₂_map_left_iff]
          constructor
          · rintro ⟨content, htells, rfl, rfl⟩
            exact ⟨⟨hfault, candidate, rfl⟩, rfl, htells, rfl⟩
          · rintro ⟨-, hrole, htells, rfl⟩
            exact ⟨message.content, htells, by rw [← hrole], rfl⟩

/-- A body is read as a message exactly if it is a reply and each of its entries tells one of the
message's blocks, in order. -/
theorem parseReply_eq_ok_iff {body : Json} {message : Message} {usage : TokenUsage} :
    backend.parseReply body = .ok (message, usage) ↔
      backend.Answers body ∧ message.role = .assistant ∧
        List.Forall₂ backend.Tells (backend.entries body) message.content ∧
        usage = backend.reportedUsage body := by
  cases backend with
  | openAi service => exact OpenAi.parseReply_eq_ok_iff
  | anthropic => exact Anthropic.parseReply_eq_ok_iff
  | google => exact Google.parseReply_eq_ok_iff
  | mistral => exact Mistral.parseReply_eq_ok_iff

/-! ## Entries that are refused -/

theorem exists_readsArguments_iff {source : Option Json} :
    (∃ arguments, ReadsArguments source arguments) ↔ ¬Garbled source := by
  unfold ReadsArguments
  split
  next => simp [Garbled]
  next => simp [Garbled]
  next text =>
    cases hblank : Text.isBlankText text.toList with
    | true => simp [Garbled, hblank]
    | false => cases hparse : Json.parse text <;> simp [Garbled, hblank, hparse]
  next other hnull htext => cases other <;> simp_all [Garbled]

theorem exists_asksFor_iff {entry : Json} : (∃ call, AsksFor entry call) ↔ ¬AsksForNone entry := by
  unfold AsksFor AsksForNone
  cases hfunction : entry.member? "function" with
  | none => simp
  | some function =>
      cases hname : textMember? "name" function with
      | none => simp [hname]
      | some name => simp [hname, ← exists_readsArguments_iff]

theorem exists_tells_iff {entry : Entry} :
    (∃ block, backend.Tells entry block) ↔ ¬backend.Refused entry := by
  have hkinds : (∃ block, backend.Tells entry block) ↔
      (∃ text, backend.Tells entry (.text text)) ∨ ∃ call, backend.Tells entry (.call call) := by
    constructor
    · rintro ⟨block, htells⟩
      rcases htells.text_or_call with ⟨text, rfl⟩ | ⟨call, rfl⟩
      · exact .inl ⟨text, htells⟩
      · exact .inr ⟨call, htells⟩
    · rintro (⟨text, htells⟩ | ⟨call, htells⟩)
      · exact ⟨_, htells⟩
      · exact ⟨_, htells⟩
  rw [hkinds]
  cases entry with
  | words said => simp [Tells, Refused]
  | part part =>
      cases backend with
      | openAi service => cases htext : textMember? "text" part <;> simp [Tells, Refused, htext]
      | mistral => simp [Tells, Refused]
      | anthropic =>
          cases hname : textMember? "name" part <;>
            simp [Tells, Refused, hname, or_iff_not_imp_left]
      | google =>
          cases htext : textMember? "text" part <;>
            simp [Tells, Refused, htext, Option.ne_none_iff_exists']
  | call entry =>
      cases backend <;> simp [Tells, Refused, exists_asksFor_iff]

/-- A body is read as a message exactly if it is a reply of which every entry can be read.  The
message is the assistant's, and its blocks are what the entries tell, one for each and in order: a
text or a call.  If the body is no reply or one of its entries is refused, all of it is an error. -/
theorem reply_is_read_entry_by_entry (backend : Backend) (body : Json) :
    (∀ message, (∃ usage, backend.parseReply body = .ok (message, usage)) ↔
      backend.Answers body ∧ message.role = .assistant ∧
        List.Forall₂ backend.Tells (backend.entries body) message.content) ∧
    ((∃ error, backend.parseReply body = .error error) ↔
      ¬backend.Answers body ∨ ∃ entry ∈ backend.entries body, backend.Refused entry) ∧
    ∀ entry block, backend.Tells entry block → (∃ text, block = .text text) ∨
      ∃ call, block = .call call := by
  have hread : ∀ message, (∃ usage, backend.parseReply body = .ok (message, usage)) ↔
      backend.Answers body ∧ message.role = .assistant ∧
        List.Forall₂ backend.Tells (backend.entries body) message.content := by
    intro message
    simp only [parseReply_eq_ok_iff]
    constructor
    · rintro ⟨usage, hanswers, hrole, htells, -⟩
      exact ⟨hanswers, hrole, htells⟩
    · rintro ⟨hanswers, hrole, htells⟩
      exact ⟨_, hanswers, hrole, htells, rfl⟩
  refine ⟨hread, ?_, ?_⟩
  · -- Blocks are there for all entries exactly if there is one for each.
    have hall : (∃ blocks, List.Forall₂ backend.Tells (backend.entries body) blocks) ↔
        ∀ entry ∈ backend.entries body, ∃ block, backend.Tells entry block :=
      exists_forall₂_iff
    simp only [exists_tells_iff] at hall
    cases hparse : backend.parseReply body with
    | error error =>
        refine iff_of_true ⟨error, rfl⟩ ?_
        by_contra hnot
        rw [not_or, not_not] at hnot
        obtain ⟨hanswers, hnone⟩ := hnot
        obtain ⟨blocks, htells⟩ := hall.mpr fun entry hentry hrefused =>
          hnone ⟨entry, hentry, hrefused⟩
        obtain ⟨usage, hok⟩ := (hread ⟨.assistant, blocks⟩).mpr ⟨hanswers, rfl, htells⟩
        rw [hparse] at hok
        exact nomatch hok
    | ok result =>
        obtain ⟨message, usage⟩ := result
        obtain ⟨hanswers, -, htells⟩ := (hread message).mp ⟨usage, hparse⟩
        refine iff_of_false (fun herror => nomatch herror) ?_
        rintro (hnot | ⟨entry, hentry, hrefused⟩)
        · exact hnot hanswers
        · exact hall.mp ⟨message.content, htells⟩ entry hentry hrefused
  · intro entry block htells
    exact htells.text_or_call

/-- A call whose type is a number. -/
def numberedCall : Json :=
  .object [("function", .object [("arguments", .string "\x7b\x7d"), ("name", .string "f")]),
    ("id", .string "c"), ("type", .ofNat 5)]

/-- A part with a text and a call without a name. -/
def captionedCall : Json :=
  .object [("functionCall", .object []), ("text", .string "x")]

/-- A chat completion with the given calls. -/
def chatOf (calls : List Json) : Json :=
  .object [("choices", .array [.object [("message", .object [("tool_calls", .array calls)])]])]

/-- A reply of candidates with the given parts. -/
def candidateOf (parts : List Json) : Json :=
  .object [("candidates", .array [.object [("content", .object [("parts", .array parts)])]])]

/-- A call is read although its type is not that of a function, and a reply is read although one of
its parts holds a call without a name. -/
theorem faulty_calls_are_read :
    (openAi OpenAi.openAi).entries (chatOf [numberedCall]) = [.call numberedCall] ∧
      numberedCall.member? "type" ≠ some (.string "function") ∧
      (openAi OpenAi.openAi).parseReply (chatOf [numberedCall]) =
        .ok (⟨.assistant, [.call ⟨"c", "f", .object []⟩]⟩, ⟨0, 0⟩) ∧
      google.entries (candidateOf [captionedCall]) = [.part captionedCall] ∧
      (captionedCall.member? "functionCall").bind (Json.member? "name") = none ∧
      (captionedCall.member? "functionCall").isSome ∧
      google.parseReply (candidateOf [captionedCall]) =
        .ok (⟨.assistant, [.text "x"]⟩, ⟨0, 0⟩) := by
  refine ⟨rfl, ?_, ?_, rfl, rfl, rfl, rfl⟩
  · decide
  · decide +kernel

end PromptScript.Backend
