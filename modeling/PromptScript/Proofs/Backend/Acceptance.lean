import PromptScript.Backend.Registry
import PromptScript.Proofs.Attempt
import PromptScript.Proofs.Conversation.Appending

/-!
# Which conversations a backend accepts

Four tables, one in each backend, say what a block becomes in a message of each role.  All of them
accept a block exactly where it may stand, so a conversation becomes a request at one backend
exactly if it does at all of them.
-/

namespace PromptScript

/-- Whether an error refuses to put something into the form of a provider. -/
def RunError.OnForm (provider : String) (error : RunError) : Prop :=
  ∃ reason, error = .conversion provider reason

namespace Backend

open Attempt (Admits)
open RunError (OnForm)

theorem admits_notAllowed {α : Type} {condition : Prop} (provider : String) (block : Block)
    (role : Role) (hcondition : ¬condition) :
    Admits (OnForm provider) condition
      (.error (notAllowed provider block role) : Except RunError α) :=
  ⟨hcondition, _, rfl⟩

namespace OpenAi

theorem admits_pieceOf (provider : String) {role : Role} (hrole : role ≠ .tool) (block : Block) :
    Admits (OnForm provider) (block.FitsIn role) (pieceOf provider role block) := by
  cases block with
  | text body => exact hrole
  | image picture =>
      by_cases huser : role = .user
      · simp only [pieceOf, if_pos huser]
        exact huser
      · simp only [pieceOf, if_neg huser]
        exact admits_notAllowed _ _ _ huser
  | call request =>
      by_cases hassistant : role = .assistant
      · simp only [pieceOf, if_pos hassistant]
        exact hassistant
      · simp only [pieceOf, if_neg hassistant]
        exact admits_notAllowed _ _ _ hassistant
  | result answer => exact admits_notAllowed _ _ _ hrole

theorem admits_toolMessage (provider : String) (block : Block) :
    Admits (OnForm provider) (block.FitsIn .tool) (toolMessage provider block) := by
  cases block with
  | result answer => exact rfl
  | text body => exact admits_notAllowed _ _ _ (by simp [Block.FitsIn])
  | image picture => exact admits_notAllowed _ _ _ (by simp [Block.FitsIn])
  | call request => exact admits_notAllowed _ _ _ (by simp [Block.FitsIn])

theorem admits_encodeMessage (provider : String) (message : Message) :
    Admits (OnForm provider) message.Placed (encodeMessage provider message) := by
  rw [encodeMessage, Message.Placed]
  split
  next htool =>
    rw [htool]
    exact Admits.mapM fun block _ => admits_toolMessage provider block
  next htool =>
    apply Admits.map
    apply Admits.bind_ok
    · exact Admits.mapM fun block _ => admits_pieceOf provider htool block
    · exact fun pieces => ⟨_, rfl⟩

theorem admits_requestBody (provider : String) (conversation : Conversation)
    (tools : List ToolDeclaration) (params : ModelParams) :
    Admits (OnForm provider) conversation.Placed
      (requestBody provider conversation tools params) := by
  apply Admits.bind_ok
  · exact Admits.mapM fun message _ => admits_encodeMessage provider message
  · exact fun messages => ⟨_, rfl⟩

end OpenAi

namespace Mistral

theorem admits_toolMessage (block : Block) :
    Admits (OnForm provider) (block.FitsIn .tool) (toolMessage block) := by
  cases block with
  | result answer => exact rfl
  | text body => exact admits_notAllowed _ _ _ (by simp [Block.FitsIn])
  | image picture => exact admits_notAllowed _ _ _ (by simp [Block.FitsIn])
  | call request => exact admits_notAllowed _ _ _ (by simp [Block.FitsIn])

theorem admits_encodeMessage (message : Message) :
    Admits (OnForm provider) message.Placed (encodeMessage message) := by
  rw [encodeMessage, Message.Placed]
  split
  next htool =>
    rw [htool]
    exact Admits.mapM fun block _ => admits_toolMessage block
  next htool =>
    apply Admits.map
    apply Admits.bind_ok
    · exact Admits.mapM fun block _ => OpenAi.admits_pieceOf provider htool block
    · exact fun pieces => ⟨_, rfl⟩

theorem admits_requestBody (conversation : Conversation) (tools : List ToolDeclaration)
    (params : ModelParams) :
    Admits (OnForm provider) conversation.Placed (requestBody conversation tools params) := by
  apply Admits.bind_ok
  · exact Admits.mapM fun message _ => admits_encodeMessage message
  · exact fun messages => ⟨_, rfl⟩

end Mistral

namespace Anthropic

theorem admits_systemText (block : Block) :
    Admits (OnForm provider) (block.FitsIn .system) (systemText block) := by
  cases block with
  | text body => exact Role.noConfusion
  | _ => exact admits_notAllowed _ _ _ (by simp [Block.FitsIn])

theorem admits_encodeBlock {role : Role} (hrole : role ≠ .system) (block : Block) :
    Admits (OnForm provider) (block.FitsIn role) (encodeBlock role block) := by
  cases role <;> cases block
  all_goals first
    | exact absurd rfl hrole
    | exact admits_notAllowed _ _ _ (by simp [Block.FitsIn])
    | simp [encodeBlock, Admits, Block.FitsIn]

theorem admits_encodeMessage (message : Message) :
    Admits (OnForm provider) message.Placed (encodeMessage message) := by
  rw [encodeMessage, Message.Placed]
  split
  next hsystem =>
    rw [hsystem]
    exact (Admits.mapM fun block _ => admits_systemText block).map _
  next hsystem => exact (Admits.mapM fun block _ => admits_encodeBlock hsystem block).map _

theorem admits_requestBody (conversation : Conversation) (tools : List ToolDeclaration)
    (params : ModelParams) :
    Admits (OnForm provider) conversation.Placed (requestBody conversation tools params) := by
  apply Admits.bind_ok
  · exact Admits.mapM fun message _ => admits_encodeMessage message
  · exact fun turns => ⟨_, rfl⟩

end Anthropic

namespace Google

theorem admits_systemPart (block : Block) :
    Admits (OnForm provider) (block.FitsIn .system) (systemPart block) := by
  cases block with
  | text body => exact Role.noConfusion
  | _ => exact admits_notAllowed _ _ _ (by simp [Block.FitsIn])

theorem admits_encodePart {role : Role} (hrole : role ≠ .system) (block : Block) :
    Admits (OnForm provider) (block.FitsIn role) (encodePart role block) := by
  cases role <;> cases block
  all_goals first
    | exact absurd rfl hrole
    | exact admits_notAllowed _ _ _ (by simp [Block.FitsIn])
    | simp [encodePart, Admits, Block.FitsIn]

theorem admits_encodeMessage (message : Message) :
    Admits (OnForm provider) message.Placed (encodeMessage message) := by
  rw [encodeMessage, Message.Placed]
  split
  next hsystem =>
    rw [hsystem]
    exact (Admits.mapM fun block _ => admits_systemPart block).map _
  next hsystem => exact (Admits.mapM fun block _ => admits_encodePart hsystem block).map _

theorem admits_requestBody (conversation : Conversation) (tools : List ToolDeclaration)
    (params : ModelParams) :
    Admits (OnForm provider) conversation.Placed (requestBody conversation tools params) := by
  apply Admits.bind_ok
  · exact Admits.mapM fun message _ => admits_encodeMessage message
  · exact fun turns => ⟨_, rfl⟩

end Google

/-- Every backend accepts exactly the conversations whose blocks stand where they may, whatever the
functions and parameters. -/
theorem admits_requestBody (backend : Backend) (conversation : Conversation)
    (tools : List ToolDeclaration) (params : ModelParams) :
    Admits (OnForm backend.name) conversation.Placed
      (backend.requestBody conversation tools params) := by
  cases backend with
  | openAi service => exact OpenAi.admits_requestBody service.name conversation tools params
  | anthropic => exact Anthropic.admits_requestBody conversation tools params
  | google => exact Google.admits_requestBody conversation tools params
  | mistral => exact Mistral.admits_requestBody conversation tools params

/-- With a key, all requests have their bodies in the same address and headers. -/
theorem exists_envelope (backend : Backend) {params : ModelParams} {key : String}
    (hkey : params.apiKey = some key) :
    ∃ url headers, ∀ conversation tools, backend.encode conversation tools params =
      (backend.requestBody conversation tools params).map (⟨url, headers, ·⟩) := by
  have hread : ∀ provider, apiKey params provider = pure key := by
    intro provider
    rw [apiKey, hkey]
    rfl
  cases backend
  all_goals
    simp only [encode, requestBody, OpenAi.encode, Anthropic.encode, Google.encode, Mistral.encode,
      hread, bind_pure_comp]
    exact ⟨_, _, fun _ _ => rfl⟩

/-- With a key, a request is the body with an address and headers around it. -/
theorem encode_eq (backend : Backend) (conversation : Conversation)
    (tools : List ToolDeclaration) {params : ModelParams} {key : String}
    (hkey : params.apiKey = some key) :
    ∃ url headers, backend.encode conversation tools params =
      (backend.requestBody conversation tools params).map (⟨url, headers, ·⟩) := by
  obtain ⟨url, headers, hencode⟩ := backend.exists_envelope hkey
  exact ⟨url, headers, hencode conversation tools⟩

/-- With a key, every backend turns exactly the conversations whose blocks stand where they may into
requests. -/
theorem admits_encode (backend : Backend) (conversation : Conversation)
    (tools : List ToolDeclaration) {params : ModelParams} (hkey : params.apiKey.isSome) :
    Admits (OnForm backend.name) conversation.Placed
      (backend.encode conversation tools params) := by
  obtain ⟨key, hkey⟩ := Option.isSome_iff_exists.mp hkey
  obtain ⟨url, headers, hencode⟩ := backend.encode_eq conversation tools hkey
  rw [hencode]
  exact (backend.admits_requestBody conversation tools params).map _

end Backend

end PromptScript
