import PromptScript.Backend.Registry
import PromptScript.Proofs.Conversation.Ledger
import PromptScript.Proofs.Json.WellFormed

/-!
# What replies become

Whatever a provider replies, what is read from it is one message of the assistant that holds nothing
but texts and calls, and the arguments of its calls are parts of the reply or were read from its
texts.  Neither writing a request nor reading a reply ever complains about the pairing of calls and
results.
-/

namespace PromptScript

open Json (Inherited)
open Conversation (resultsOf)

/-- Whether a block answers no call, and the arguments of a call have the given property. -/
def Block.Spoken (property : Json → Prop) : Block → Prop
  | .call request => property request.arguments
  | .result _ => False
  | .text _ | .image _ => True

/-- Whether a block may stand in a reply: it is a text or a call, and the arguments of a call have
the given property. -/
def Block.Said (property : Json → Prop) : Block → Prop
  | .call request => property request.arguments
  | .text _ => True
  | .image _ | .result _ => False

theorem Block.Said.spoken {property : Json → Prop} {block : Block} (hsaid : block.Said property) :
    block.Spoken property := by
  cases block with
  | image picture => trivial
  | _ => exact hsaid

/-- Whether an error is about the pairing of calls and results. -/
def RunError.OnPairing : RunError → Prop
  | .invalidConversation _ => True
  | _ => False

/-- Whether an error is about a conversation or a reply: its pairing or its form. -/
def RunError.OnConversation : RunError → Prop
  | .invalidConversation _ | .conversion _ _ => True
  | _ => False

theorem RunError.OnPairing.onConversation {error : RunError} (hpairing : error.OnPairing) :
    error.OnConversation := by
  cases error with
  | invalidConversation reason => trivial
  | _ => exact hpairing.elim

theorem resultsOf_spoken {property : Json → Prop} {blocks : List Block}
    (hspoken : ∀ block ∈ blocks, block.Spoken property) : resultsOf blocks = [] := by
  rw [resultsOf, List.filterMap_eq_nil_iff]
  intro block hblock
  cases block with
  | result answer => exact (hspoken _ hblock).elim
  | text body => rfl
  | image picture => rfl
  | call call => rfl

namespace Backend

section Reading

variable {property : Json → Prop}

theorem decodeArguments_inherits (hinherited : Inherited property) {provider : String}
    {source : Option Json} {arguments : Json} (hsource : ∀ value ∈ source, property value)
    (hread : decodeArguments provider source = .ok arguments) : property arguments := by
  unfold decodeArguments at hread
  split at hread
  · cases hread
    exact hinherited.empty
  · cases hread
    exact hinherited.empty
  · split at hread
    next =>
      cases hread
      exact hinherited.empty
    next =>
      split at hread
      next hparse =>
        cases hread
        exact hinherited.parsed hparse
      next => exact nomatch hread
  · cases hread
    exact hsource _ rfl

/-- The items of an array that a member holds, where it holds one. -/
theorem property_of_mem_items (hinherited : Inherited property) (source : Option Json)
    (hsource : ∀ value ∈ source, property value) {item : Json}
    (hitem : item ∈ (source.bind Json.asArray?).getD []) : property item := by
  cases source with
  | none => exact absurd hitem List.not_mem_nil
  | some value =>
      cases value with
      | array items => exact hinherited.item (hsource _ rfl) hitem
      | _ => exact absurd hitem List.not_mem_nil

theorem property_of_firstItem (hinherited : Inherited property) {name : String}
    {value item : Json} (hvalue : property value) (hitem : firstItem? name value = some item) :
    property item := by
  obtain ⟨items, hitems, hfirst⟩ := Option.bind_eq_some_iff.mp hitem
  apply property_of_mem_items hinherited (value.member? name)
  · exact fun found hfound => hinherited.member? hvalue hfound
  · rw [hitems]
    exact List.mem_of_mem_head? hfirst

theorem Anthropic.decodeBlock_said (hinherited : Inherited property) {source : Json}
    {block : Block} (hsource : property source)
    (hread : Anthropic.decodeBlock source = .ok block) : block.Said property := by
  unfold Anthropic.decodeBlock at hread
  split at hread
  next =>
    cases hread
    trivial
  next =>
    split at hread
    next => exact nomatch hread
    next name hname =>
      cases hread
      change property ((source.member? "input").getD (.object []))
      cases hinput : source.member? "input" with
      | none => exact hinherited.empty
      | some input => exact hinherited.member? hsource hinput
  next => exact nomatch hread

theorem Google.decodePart_said (hinherited : Inherited property) {source : Json}
    {block : Block} (hsource : property source)
    (hread : Google.decodePart source = .ok block) : block.Said property := by
  unfold Google.decodePart at hread
  split at hread
  next =>
    cases hread
    trivial
  next =>
    split at hread
    next call hcall =>
      have hproperty := hinherited.member? hsource hcall
      split at hread
      next => exact nomatch hread
      next name hname =>
        cases hread
        change property ((call.member? "args").getD (.object []))
        cases hargs : call.member? "args" with
        | none => exact hinherited.empty
        | some args => exact hinherited.member? hproperty hargs
    next => exact nomatch hread

theorem Mistral.decodePart_said {source : Json} {block : Block}
    (hread : Mistral.decodePart source = .ok block) : block.Said property := by
  unfold Mistral.decodePart at hread
  split at hread
  next =>
    cases hread
    trivial
  next => exact nomatch hread

theorem OpenAi.decodePart_said {provider : String} {source : Json} {block : Block}
    (hread : OpenAi.decodePart provider source = .ok block) : block.Said property := by
  unfold OpenAi.decodePart at hread
  split at hread
  next =>
    cases hread
    trivial
  next => exact nomatch hread

theorem Mistral.decodeContent_said {source : Option Json} {blocks : List Block}
    (hread : Mistral.decodeContent source = .ok blocks) :
    ∀ block ∈ blocks, block.Said property := by
  unfold Mistral.decodeContent at hread
  intro block hblock
  split at hread
  · cases hread
    exact absurd hblock List.not_mem_nil
  · cases hread
    exact absurd hblock List.not_mem_nil
  · cases hread
    split at hblock
    · exact absurd hblock List.not_mem_nil
    · rw [List.mem_singleton.mp hblock]
      trivial
  · obtain ⟨part, -, hpart⟩ := Attempt.exists_of_mem_mapM hread hblock
    exact Mistral.decodePart_said hpart
  · exact nomatch hread

theorem OpenAi.decodeContent_said {provider : String} {source : Option Json}
    {blocks : List Block} (hread : OpenAi.decodeContent provider source = .ok blocks) :
    ∀ block ∈ blocks, block.Said property := by
  unfold OpenAi.decodeContent at hread
  intro block hblock
  split at hread
  · cases hread
    exact absurd hblock List.not_mem_nil
  · cases hread
    exact absurd hblock List.not_mem_nil
  · cases hread
    split at hblock
    · exact absurd hblock List.not_mem_nil
    · rw [List.mem_singleton.mp hblock]
      trivial
  · obtain ⟨part, -, hpart⟩ := Attempt.exists_of_mem_mapM hread hblock
    exact OpenAi.decodePart_said hpart
  · exact nomatch hread

/-- The arguments that stand in the function of a call are a part of the call. -/
theorem property_of_arguments (hinherited : Inherited property) {call : Json}
    (hcall : property call) :
    ∀ value ∈ (call.member? "function").bind (Json.member? "arguments"), property value := by
  intro value hvalue
  obtain ⟨function, hfunction, harguments⟩ := Option.bind_eq_some_iff.mp hvalue
  exact hinherited.member? (hinherited.member? hcall hfunction) harguments

theorem Mistral.decodeCall_said (hinherited : Inherited property) {call : Json}
    {block : Block} (hcall : property call) (hread : Mistral.decodeCall call = .ok block) :
    block.Said property := by
  unfold Mistral.decodeCall at hread
  simp only at hread
  split at hread
  next => simp at hread
  next name hname =>
    simp only [Attempt.bind_eq_ok_iff, Attempt.pure_eq_ok_iff] at hread
    obtain ⟨arguments, harguments, rfl⟩ := hread
    exact decodeArguments_inherits hinherited (property_of_arguments hinherited hcall) harguments

theorem OpenAi.decodeCall_said (hinherited : Inherited property) {provider : String}
    {call : Json} {block : Block} (hcall : property call)
    (hread : OpenAi.decodeCall provider call = .ok block) : block.Said property := by
  unfold OpenAi.decodeCall at hread
  simp only at hread
  split at hread
  next => simp at hread
  next =>
    split at hread
    next => simp at hread
    next name hname =>
      simp only [Attempt.bind_eq_ok_iff, Attempt.pure_eq_ok_iff] at hread
      obtain ⟨arguments, harguments, rfl⟩ := hread
      exact decodeArguments_inherits hinherited (property_of_arguments hinherited hcall)
        harguments

theorem Anthropic.parseReply_said (hinherited : Inherited property) {body : Json}
    {message : Message} {usage : TokenUsage} (hbody : property body)
    (hread : Anthropic.parseReply body = .ok (message, usage)) :
    message.role = .assistant ∧ ∀ block ∈ message.content, block.Said property := by
  unfold Anthropic.parseReply at hread
  by_cases hfault : textMember? "type" body = some "error"
  · rw [if_pos hfault] at hread
    simp at hread
  · rw [if_neg hfault] at hread
    split at hread
    next => simp at hread
    next blocks hblocks =>
      simp only [Attempt.bind_eq_ok_iff, Attempt.pure_eq_ok_iff, Prod.mk.injEq] at hread
      obtain ⟨content, hcontent, rfl, -⟩ := hread
      refine ⟨rfl, ?_⟩
      intro block hblock
      obtain ⟨source, hsource, hdecode⟩ := Attempt.exists_of_mem_mapM hcontent hblock
      refine decodeBlock_said hinherited ?_ hdecode
      apply property_of_mem_items hinherited (body.member? "content")
      · exact fun value hvalue => hinherited.member? hbody hvalue
      · rw [hblocks]
        exact hsource

theorem Google.parseReply_said (hinherited : Inherited property) {body : Json}
    {message : Message} {usage : TokenUsage} (hbody : property body)
    (hread : Google.parseReply body = .ok (message, usage)) :
    message.role = .assistant ∧ ∀ block ∈ message.content, block.Said property := by
  unfold Google.parseReply at hread
  cases hfault : errorMessage? body with
  | some reported => simp [hfault] at hread
  | none =>
    simp only [hfault] at hread
    split at hread
    next => simp at hread
    next candidate hcandidate =>
      simp only [Attempt.bind_eq_ok_iff, Attempt.pure_eq_ok_iff, Prod.mk.injEq] at hread
      obtain ⟨content, hcontent, rfl, -⟩ := hread
      refine ⟨rfl, ?_⟩
      intro block hblock
      obtain ⟨source, hsource, hdecode⟩ := Attempt.exists_of_mem_mapM hcontent hblock
      refine decodePart_said hinherited ?_ hdecode
      refine property_of_mem_items hinherited _ ?_ hsource
      intro value hvalue
      obtain ⟨content, hmember, hparts⟩ := Option.bind_eq_some_iff.mp hvalue
      have hfirst := property_of_firstItem hinherited hbody hcandidate
      exact hinherited.member? (hinherited.member? hfirst hmember) hparts

/-- The message of a chat completion is a part of the reply. -/
theorem OpenAi.property_of_replyMessage (hinherited : Inherited property) {provider : String}
    {body message : Json} (hbody : property body)
    (hread : OpenAi.replyMessage provider body = .ok message) : property message := by
  unfold OpenAi.replyMessage at hread
  split at hread
  next => exact nomatch hread
  next =>
    split at hread
    next found hfound =>
      cases hread
      obtain ⟨choice, hchoice, hmember⟩ := Option.bind_eq_some_iff.mp hfound
      exact hinherited.member? (property_of_firstItem hinherited hbody hchoice) hmember
    next => exact nomatch hread

theorem Mistral.parseReply_said (hinherited : Inherited property) {body : Json}
    {message : Message} {usage : TokenUsage} (hbody : property body)
    (hread : Mistral.parseReply body = .ok (message, usage)) :
    message.role = .assistant ∧ ∀ block ∈ message.content, block.Said property := by
  unfold Mistral.parseReply at hread
  simp only [Attempt.bind_eq_ok_iff, Attempt.pure_eq_ok_iff, Prod.mk.injEq] at hread
  obtain ⟨source, hsource, content, hcontent, calls, hcalls, rfl, -⟩ := hread
  have hproperty := OpenAi.property_of_replyMessage hinherited hbody hsource
  refine ⟨rfl, ?_⟩
  intro block hblock
  rcases List.mem_append.mp hblock with htext | hcall
  · exact Mistral.decodeContent_said hcontent block htext
  · obtain ⟨call, hmem, hdecode⟩ := Attempt.exists_of_mem_mapM hcalls hcall
    refine Mistral.decodeCall_said hinherited ?_ hdecode
    refine property_of_mem_items hinherited _ ?_ hmem
    exact fun value hvalue => hinherited.member? hproperty hvalue

theorem OpenAi.parseReply_said (hinherited : Inherited property) {provider : String}
    {body : Json} {message : Message} {usage : TokenUsage} (hbody : property body)
    (hread : OpenAi.parseReply provider body = .ok (message, usage)) :
    message.role = .assistant ∧ ∀ block ∈ message.content, block.Said property := by
  unfold OpenAi.parseReply at hread
  simp only [Attempt.bind_eq_ok_iff, Attempt.pure_eq_ok_iff, Prod.mk.injEq] at hread
  obtain ⟨source, hsource, content, hcontent, calls, hcalls, rfl, -⟩ := hread
  have hproperty := OpenAi.property_of_replyMessage hinherited hbody hsource
  refine ⟨rfl, ?_⟩
  intro block hblock
  rcases List.mem_append.mp hblock with hspoken | hcall
  · split at hspoken
    next =>
      -- A refusal stands in for a message without content.
      rw [Option.mem_toList, Option.map_eq_some_iff] at hspoken
      obtain ⟨text, -, rfl⟩ := hspoken
      trivial
    next => exact OpenAi.decodeContent_said hcontent block hspoken
  · obtain ⟨call, hmem, hdecode⟩ := Attempt.exists_of_mem_mapM hcalls hcall
    refine OpenAi.decodeCall_said hinherited ?_ hdecode
    refine property_of_mem_items hinherited _ ?_ hmem
    exact fun value hvalue => hinherited.member? hproperty hvalue

/-- A reply becomes one message of the assistant that holds nothing but texts and calls, and
whatever property its parts inherit from it the arguments of its calls have as well. -/
theorem decode_messages (hinherited : Inherited property) (backend : Backend) {body : Json}
    {model : Model} {completion : Completion} (hbody : property body)
    (hdecode : backend.decode body model = .ok completion) :
    ∃ message, completion.messages = [message] ∧ message.role = .assistant ∧
      ∀ block ∈ message.content, block.Said property := by
  simp only [decode, Attempt.map_eq_ok_iff] at hdecode
  obtain ⟨⟨message, usage⟩, hread, rfl⟩ := hdecode
  refine ⟨message, rfl, ?_⟩
  cases backend with
  | openAi service => exact OpenAi.parseReply_said hinherited hbody hread
  | anthropic => exact Anthropic.parseReply_said hinherited hbody hread
  | google => exact Google.parseReply_said hinherited hbody hread
  | mistral => exact Mistral.parseReply_said hinherited hbody hread

end Reading

section Errors

open Attempt (Avoids)

theorem avoids_apiKey (params : ModelParams) (provider : String) :
    Avoids RunError.OnPairing (apiKey params provider) := by
  unfold apiKey
  split
  · exact .ok _
  · exact .error id

theorem Anthropic.avoids_encode (conversation : Conversation) (tools : List ToolDeclaration)
    (params : ModelParams) :
    Avoids RunError.OnPairing (Anthropic.encode conversation tools params) := by
  have hsystem : ∀ block, Avoids RunError.OnPairing (systemText block) := by
    intro block
    unfold systemText
    split
    · exact .ok _
    · exact .error id
  have hblock : ∀ role block, Avoids RunError.OnPairing (encodeBlock role block) := by
    intro role block
    unfold encodeBlock
    split <;> first | exact .ok _ | exact .error id
  have hmessage : ∀ message, Avoids RunError.OnPairing (encodeMessage message) := by
    intro message
    unfold encodeMessage
    split
    · exact (Avoids.mapM hsystem message.content).map _
    · exact (Avoids.mapM (hblock message.role) message.content).map _
  unfold Anthropic.encode Anthropic.requestBody
  refine ((Avoids.mapM hmessage conversation).bind fun turns => .ok _).bind fun body => ?_
  exact (avoids_apiKey params provider).bind fun key => .ok _

theorem Google.avoids_encode (conversation : Conversation) (tools : List ToolDeclaration)
    (params : ModelParams) :
    Avoids RunError.OnPairing (Google.encode conversation tools params) := by
  have hsystem : ∀ block, Avoids RunError.OnPairing (systemPart block) := by
    intro block
    unfold systemPart
    split
    · exact .ok _
    · exact .error id
  have hblock : ∀ role block, Avoids RunError.OnPairing (encodePart role block) := by
    intro role block
    unfold encodePart
    split <;> first | exact .ok _ | exact .error id
  have hmessage : ∀ message, Avoids RunError.OnPairing (encodeMessage message) := by
    intro message
    unfold encodeMessage
    split
    · exact (Avoids.mapM hsystem message.content).map _
    · exact (Avoids.mapM (hblock message.role) message.content).map _
  unfold Google.encode Google.requestBody
  refine ((Avoids.mapM hmessage conversation).bind fun turns => .ok _).bind fun body => ?_
  exact (avoids_apiKey params provider).bind fun key => .ok _

theorem OpenAi.avoids_pieceOf (provider : String) (role : Role) (block : Block) :
    Avoids RunError.OnPairing (pieceOf provider role block) := by
  unfold pieceOf
  split
  · exact .ok _
  · split
    · exact .ok _
    · exact .error id
  · split
    · exact .ok _
    · exact .error id
  · exact .error id

theorem OpenAi.avoids_encode (service : OpenAi.Service) (conversation : Conversation)
    (tools : List ToolDeclaration) (params : ModelParams) :
    Avoids RunError.OnPairing (OpenAi.encode service conversation tools params) := by
  have htool : ∀ block, Avoids RunError.OnPairing (toolMessage service.name block) := by
    intro block
    unfold toolMessage
    split
    · exact .ok _
    · exact .error id
  have hmessage : ∀ message, Avoids RunError.OnPairing (encodeMessage service.name message) := by
    intro message
    unfold encodeMessage chatMessage
    split
    · exact Avoids.mapM htool message.content
    · refine Avoids.map _ (Avoids.bind ?_ fun pieces => .ok _)
      exact Avoids.mapM (avoids_pieceOf service.name message.role) message.content
  unfold OpenAi.encode OpenAi.requestBody
  refine ((Avoids.mapM hmessage conversation).bind fun turns => .ok _).bind fun body => ?_
  exact (avoids_apiKey params service.name).bind fun key => .ok _

theorem Mistral.avoids_encode (conversation : Conversation) (tools : List ToolDeclaration)
    (params : ModelParams) :
    Avoids RunError.OnPairing (Mistral.encode conversation tools params) := by
  have htool : ∀ block, Avoids RunError.OnPairing (toolMessage block) := by
    intro block
    unfold toolMessage
    split
    · exact .ok _
    · exact .error id
  have hmessage : ∀ message, Avoids RunError.OnPairing (encodeMessage message) := by
    intro message
    unfold encodeMessage chatMessage
    split
    · exact Avoids.mapM htool message.content
    · refine Avoids.map _ (Avoids.bind ?_ fun pieces => .ok _)
      exact Avoids.mapM (OpenAi.avoids_pieceOf provider message.role) message.content
  unfold Mistral.encode Mistral.requestBody
  refine ((Avoids.mapM hmessage conversation).bind fun turns => .ok _).bind fun body => ?_
  exact (avoids_apiKey params provider).bind fun key => .ok _

/-- No backend complains about the pairing of a conversation that it puts into a request. -/
theorem avoids_encode (backend : Backend) (conversation : Conversation)
    (tools : List ToolDeclaration) (params : ModelParams) :
    Avoids RunError.OnPairing (backend.encode conversation tools params) := by
  cases backend with
  | openAi service => exact OpenAi.avoids_encode service conversation tools params
  | anthropic => exact Anthropic.avoids_encode conversation tools params
  | google => exact Google.avoids_encode conversation tools params
  | mistral => exact Mistral.avoids_encode conversation tools params

theorem Anthropic.avoids_parseReply (body : Json) :
    Avoids RunError.OnPairing (Anthropic.parseReply body) := by
  have hblock : ∀ block, Avoids RunError.OnPairing (decodeBlock block) := by
    intro block
    unfold decodeBlock
    split
    · exact .ok _
    · split
      · exact .error id
      · exact .ok _
    · exact .error id
  unfold Anthropic.parseReply
  by_cases hfault : textMember? "type" body = some "error"
  · rw [if_pos hfault]
    exact .throw_bind _ id
  · rw [if_neg hfault]
    split
    · exact .error id
    · exact (Avoids.mapM hblock _).bind fun content => .ok _

theorem OpenAi.avoids_replyMessage (provider : String) (body : Json) :
    Avoids RunError.OnPairing (replyMessage provider body) := by
  unfold replyMessage
  split
  · exact .error id
  · split
    · exact .ok _
    · exact .error id

section Reading

/-! What is read behind an error that a reply reports ends with errors of one kind only. -/

variable {kind : RunError → Prop}
variable (hconversion : ∀ provider reason, ¬kind (.conversion provider reason))

include hconversion

theorem avoids_decodeArguments (provider : String) (source : Option Json) :
    Avoids kind (decodeArguments provider source) := by
  unfold decodeArguments
  split
  · exact .ok _
  · exact .ok _
  · split
    · exact .ok _
    · split
      · exact .ok _
      · exact .error (hconversion _ _)
  · exact .ok _

theorem Google.avoids_parseReply {body : Json}
    (hreported : ∀ reason, errorMessage? body = some reason →
      ¬kind (.providerApi provider reason))
    (hmissing : ¬kind (.providerApi provider "no candidates in response")) :
    Avoids kind (Google.parseReply body) := by
  have hpart : ∀ part, Avoids kind (decodePart part) := by
    intro part
    unfold decodePart
    split
    · exact .ok _
    · split
      · split
        · exact .error (hconversion _ _)
        · exact .ok _
      · exact .error (hconversion _ _)
  unfold Google.parseReply
  cases hfault : errorMessage? body with
  | some reported => exact .throw_bind _ (hreported reported hfault)
  | none =>
      simp only
      split
      · exact .error hmissing
      · exact (Avoids.mapM hpart _).bind fun content => .ok _

theorem OpenAi.avoids_parseReply {provider : String} {body : Json}
    (hmessage : Avoids kind (replyMessage provider body)) :
    Avoids kind (OpenAi.parseReply provider body) := by
  have hpart : ∀ part, Avoids kind (decodePart provider part) := by
    intro part
    unfold decodePart
    split
    · exact .ok _
    · exact .error (hconversion _ _)
  have hcontent : ∀ source, Avoids kind (decodeContent provider source) := by
    intro source
    unfold decodeContent
    split
    · exact .ok _
    · exact .ok _
    · exact .ok _
    · exact Avoids.mapM hpart _
    · exact .error (hconversion _ _)
  have hcall : ∀ call, Avoids kind (decodeCall provider call) := by
    intro call
    unfold decodeCall
    simp only
    split
    · exact .throw_bind _ (hconversion _ _)
    · split
      · exact .error (hconversion _ _)
      · exact (avoids_decodeArguments hconversion provider _).bind fun arguments => .ok _
  unfold OpenAi.parseReply
  refine hmessage.bind fun message => ?_
  refine (hcontent _).bind fun content => ?_
  exact (Avoids.mapM hcall _).bind fun calls => .ok _

theorem Mistral.avoids_parseReply {body : Json}
    (hmessage : Avoids kind (OpenAi.replyMessage provider body)) :
    Avoids kind (Mistral.parseReply body) := by
  have hpart : ∀ part, Avoids kind (decodePart part) := by
    intro part
    unfold decodePart
    split
    · exact .ok _
    · exact .error (hconversion _ _)
  have hcontent : ∀ source, Avoids kind (decodeContent source) := by
    intro source
    unfold decodeContent
    split
    · exact .ok _
    · exact .ok _
    · exact .ok _
    · exact Avoids.mapM hpart _
    · exact .error (hconversion _ _)
  have hcall : ∀ call, Avoids kind (decodeCall call) := by
    intro call
    unfold decodeCall
    simp only
    split
    · exact .error (hconversion _ _)
    · exact (avoids_decodeArguments hconversion provider _).bind fun arguments => .ok _
  unfold Mistral.parseReply
  refine hmessage.bind fun message => ?_
  refine (hcontent _).bind fun content => ?_
  exact (Avoids.mapM hcall _).bind fun calls => .ok _

end Reading

/-- No backend complains about pairing in a reply that it reads. -/
theorem avoids_decode (backend : Backend) (body : Json) (model : Model) :
    Avoids RunError.OnPairing (backend.decode body model) := by
  unfold decode
  apply Avoids.map _
  cases backend with
  | openAi service =>
      exact OpenAi.avoids_parseReply (fun _ _ => id)
        (OpenAi.avoids_replyMessage service.name body)
  | anthropic => exact Anthropic.avoids_parseReply body
  | google => exact Google.avoids_parseReply (fun _ _ => id) (fun _ _ => id) id
  | mistral =>
      exact Mistral.avoids_parseReply (fun _ _ => id)
        (OpenAi.avoids_replyMessage Mistral.provider body)

theorem avoids_ofProvider (provider : String) :
    Avoids RunError.OnConversation (ofProvider provider) := by
  unfold ofProvider
  split
  · exact .ok _
  · exact .error id

end Errors

end Backend

end PromptScript
