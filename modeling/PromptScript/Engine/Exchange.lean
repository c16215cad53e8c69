import PromptScript.Conversation.Pairing
import PromptScript.Engine.State
import PromptScript.Engine.Setup

/-!
# Exchanges with a model

One exchange sends the conversation to the active model and runs the functions that the model asks
for, until it answers without asking for any or has asked too often.  Every call gets exactly one
result, also where the exchange ends with an error.
-/

namespace PromptScript

namespace Exchange

/-- The name of the variable with the provider of a model that the catalog does not know. -/
def providerName : String := "provider"

/-- The name of the variable with the temperature. -/
def temperatureName : String := "temperature"

/-- The name of the variable with the greatest length of a reply. -/
def maxTokensName : String := "max_tokens"

/-- The model to ask: the one that the variable names, or else the active one. -/
def resolveModel (settings : Settings) (state : ExecutionState) : Except RunError Model := do
  let named := (state.bindings.getText? Variables.modelName).orElse fun _ => state.activeModel
  match named with
  | none => throw (.modelNotFound "no model selected; use .llm")
  | some name =>
    match settings.catalog.get name with
    | .ok model => return model
    | .error error =>
      match state.bindings.getText? providerName with
      | some provider => return ⟨name, provider, name, 0.0, 0.0, none⟩
      | none => throw error

/-- The greatest length of a reply that the variables ask for. -/
def maxTokens (bindings : Variables) : Except RunError (Option Nat) :=
  match bindings.get? maxTokensName with
  | none | some .null => .ok none
  | some value =>
    match value.asNat? with
    | some count =>
      if count < 0x100000000 then .ok (some count) else .error (refusal value)
    | none => .error (refusal value)
where
  refusal (value : Json) : RunError :=
    .invalidArgument ("max_tokens must be a positive integer, got " ++ value.render)

/-- The settings of a request. -/
def params (settings : Settings) (state : ExecutionState) (model : Model) :
    Except RunError ModelParams := do
  let maxTokens ← maxTokens state.bindings
  return {
    model := model.wireName
    apiKey := settings.apiKey model.provider
    baseUrl := settings.baseUrls.lookup model.provider
    temperature := (state.bindings.get? temperatureName).bind Json.asFloat?
    maxTokens }

/-- What an exchange needs for every request. -/
structure Plan where
  model : Model
  backend : Backend
  tools : List ToolDeclaration
  params : ModelParams

/-- The result of a call that failed. -/
def failedResult (call : Call) (reason : String) : CallResult :=
  ⟨call.id, call.name, "Error calling " ++ call.name ++ ": " ++ reason, true⟩

/-- Runs a call that a model asked for. -/
def dispatch (settings : Settings) (world : World) (call : Call) : CallResult × World :=
  let (answer, world) := world.invoke settings call.name call.arguments
  match answer with
  | .ok content => (⟨call.id, call.name, content, false⟩, world)
  | .error error => (failedResult call error.message, world)

/-- Runs calls in order. -/
def dispatchAll (settings : Settings) : World → List Call → List CallResult × World
  | world, [] => ([], world)
  | world, call :: rest =>
    let (result, world) := dispatch settings world call
    let (results, world) := dispatchAll settings world rest
    (result :: results, world)

/-- The message with the results of calls. -/
def resultMessage (results : List CallResult) : Message :=
  ⟨.tool, results.map Block.result⟩

/-- The results of calls that come after too many others. -/
def refusedResults (settings : Settings) (calls : List Call) : List CallResult :=
  calls.map fun call =>
    failedResult call ("limit of " ++ toString settings.maxToolRounds
      ++ " function rounds reached")

/-- The text of the last message of the model. -/
def lastReply (conversation : Conversation) : String :=
  match conversation.reverse.find? fun message => message.role == .assistant with
  | some message => message.textContent
  | none => ""

/-- Sends the conversation and takes in the reply: the calls that it asks for. -/
def turn (plan : Plan) (state : ExecutionState) (world : World) :
    Except RunError (List Call) × ExecutionState × World :=
  match state.conversation.checkPairing with
  | .error error => (.error (.invalidConversation error.message), state, world)
  | .ok () =>
    match plan.backend.encode state.conversation plan.tools plan.params with
    | .error error => (.error error, state, world)
    | .ok request =>
      match world.send plan.model.provider request with
      | (.error error, world) => (.error error, state, world)
      | (.ok body, world) =>
        match plan.backend.decode body plan.model with
        | .error error => (.error error, state, world)
        | .ok completion =>
          let messages := CallIds.assign state.conversation completion.messages
          let next : ExecutionState :=
            { state with
              counters :=
                state.counters.record completion.usage completion.costIn completion.costOut
              conversation := messages.foldl Conversation.push state.conversation }
          (.ok (messages.flatMap Message.calls), next, world)

/-- Goes on until the model asks for no function, at most `rounds` times after functions. -/
def converse (settings : Settings) (plan : Plan) : (rounds : Nat) → ExecutionState → World →
    Except RunError Unit × ExecutionState × World
  | rounds, state, world =>
    match turn plan state world with
    | (.error error, state, world) => (.error error, state, world)
    | (.ok [], state, world) => (.ok (), state, world)
    | (.ok calls, state, world) =>
      match rounds with
      | 0 =>
        let refused := resultMessage (refusedResults settings calls)
        (.error (.providerApi plan.model.provider
            ("model kept requesting functions after " ++ toString settings.maxToolRounds
              ++ " rounds")),
          { state with conversation := state.conversation.push refused }, world)
      | left + 1 =>
        let (results, world) := dispatchAll settings world calls
        converse settings plan left
          { state with conversation := state.conversation.push (resultMessage results) } world

/-- What every request of an exchange needs, in the order in which it is found out. -/
def plan (settings : Settings) (state : ExecutionState) (registry : FunctionRegistry)
    (model : Model) : Except RunError Plan := do
  let params ← params settings state model
  let backend ← Backend.ofProvider model.provider
  if params.apiKey.isNone then
    throw (.providerAuth model.provider "no API key configured")
  return ⟨model, backend, registry.declarations, params⟩

/-- Runs an exchange.  The reply goes into the variable for it. -/
def run (settings : Settings) (state : ExecutionState) (world : World) :
    Except RunError Unit × ExecutionState × World :=
  match resolveModel settings state with
  | .error error => (.error error, state, world)
  | .ok model =>
    match world.refreshFunctions settings with
    | (.error error, world) => (.error error, state, world)
    | (.ok (), world) =>
      match plan settings state world.registry model with
      | .error error => (.error error, state, world)
      | .ok plan =>
        let active : ExecutionState :=
          { state with activeModel := some model.name, activeProvider := some model.provider }
        match converse settings plan settings.maxToolRounds active world with
        | (.error error, state, world) => (.error error, state, world)
        | (.ok (), state, world) =>
          let reply := Json.string (lastReply state.conversation)
          match state.bindings.set Variables.lastResponseName reply with
          | .error error => (.error error, state, world)
          | .ok bindings => (.ok (), { state with bindings }, world)

end Exchange

end PromptScript
