import PromptScript.Content
import PromptScript.Engine.Exchange
import PromptScript.Engine.Invocation
import PromptScript.Engine.Payload
import PromptScript.Pattern.Expand
import PromptScript.Session.Record
import PromptScript.Variables.Substitute

/-!
# What statements do

The effect of a statement on the state of a run and on the world.  A change of the state is built
as a whole before it takes place, so a statement that fails leaves the state as it was; only the
choice of a model and an exchange with it may stop halfway.
-/

namespace PromptScript

/-- What comes of a statement: its result, the state and the world. -/
abbrev Outcome := Except RunError Unit × ExecutionState × World

/-- The outcome of a change of the state that takes place as a whole or not at all. -/
def Outcome.ofChange (state : ExecutionState) (world : World)
    (change : Except RunError ExecutionState) : Outcome :=
  match change with
  | .ok next => (.ok (), next, world)
  | .error error => (.error error, state, world)

namespace ExecutionState

/-- The text with every span replaced by the value that it names. -/
def substitute (state : ExecutionState) (text : String) : Except RunError String :=
  state.bindings.substitute state.namespaceValues text

/-- Appends a message. -/
def push (state : ExecutionState) (message : Message) : ExecutionState :=
  { state with conversation := state.conversation.push message }

/-- Appends a block to the last message, or to a new one where the last takes no such block. -/
def appendBlock (state : ExecutionState) (accept : Role → Bool) (role : Role) (block : Block) :
    ExecutionState :=
  { state with conversation := Conversation.appendBlock accept role block state.conversation }

/-- Appends a text to the last message; behind the results of calls it begins a new one. -/
def appendText (state : ExecutionState) (text : String) : ExecutionState :=
  state.appendBlock (fun role => role != .tool) .user (.text text)

/-- Appends a call to the message of the model. -/
def appendCall (state : ExecutionState) (call : Call) : ExecutionState :=
  state.appendBlock (fun role => role == .assistant) .assistant (.call call)

/-- Appends a result to the message of results. -/
def appendResult (state : ExecutionState) (result : CallResult) : ExecutionState :=
  state.appendBlock (fun role => role == .tool) .tool (.result result)

/-- Gives a variable a value. -/
def assign (state : ExecutionState) (name : String) (value : Json) :
    Except RunError ExecutionState := do
  return { state with bindings := ← state.bindings.set name value }

/-- Appends a message of the given role. -/
def say (state : ExecutionState) (role : Role) (payload : String) :
    Except RunError ExecutionState := do
  return state.push (.ofText role (← state.substitute payload))

/-- Goes on with the text of the last message. -/
def continueText (state : ExecutionState) (payload : String) :
    Except RunError ExecutionState := do
  return state.appendText (← state.substitute payload)

/-- Gives a variable the value that a text stands for. -/
def setVariable (state : ExecutionState) (payload : String) :
    Except RunError ExecutionState := do
  let assignment := Assignment.ofPayload payload
  let text ← state.substitute assignment.text
  state.assign assignment.name (Variables.valueOfText text)

/-- Appends a written call. -/
def writeCall (state : ExecutionState) (payload : String) : Except RunError ExecutionState := do
  let head ← CallHead.ofPayload .toolCall (← state.substitute payload)
  return state.appendCall ⟨head.id, head.name, ← readCallArguments head.body⟩

/-- Appends a written result. -/
def writeResult (state : ExecutionState) (payload : String) :
    Except RunError ExecutionState := do
  let head ← CallHead.ofPayload .toolResult (← state.substitute payload)
  return state.appendResult ⟨head.id, head.name, head.body, false⟩

/-- Appends the text of a file. -/
def includeFile (settings : Settings) (world : World) (state : ExecutionState)
    (payload : String) : Except RunError ExecutionState := do
  let path := Text.trim (← state.substitute payload)
  return state.appendText (← Content.readText world.tree settings.contentBase path)

/-- Appends the image of a file to the message of the user. -/
def attachImage (settings : Settings) (world : World) (state : ExecutionState)
    (payload : String) : Except RunError ExecutionState := do
  let path := Text.trim (← state.substitute payload)
  let image ← Content.readImage world.tree settings.contentBase path
  return state.appendBlock (fun role => role == .user) .user (.image image)

/-- Gives variables their values one after another, up to the first that is refused. -/
def assignAll : ExecutionState → List (String × Json) → Except RunError Unit × ExecutionState
  | state, [] => (.ok (), state)
  | state, (name, value) :: rest =>
    match state.assign name value with
    | .ok next => assignAll next rest
    | .error error => (.error error, state)

/-- Makes a model the active one. -/
def activate (catalog : Catalog) (state : ExecutionState) (model : String) : ExecutionState :=
  { state with
    activeModel := some model
    activeProvider := (catalog.get? model).map Model.provider }

/-- Chooses a model. -/
def chooseModel (catalog : Catalog) (state : ExecutionState) (payload : String) :
    Except RunError Unit × ExecutionState :=
  match (state.substitute payload).bind ModelChoice.ofPayload with
  | .error error => (.error error, state)
  | .ok choice =>
    match state.assignAll choice.values with
    | (.error error, state) => (.error error, state)
    | (.ok (), state) => (.ok (), state.activate catalog choice.model)

/-- The JSON form of a section. -/
def sectionJson (state : ExecutionState) : StateSection → Json
  | .statements => .array (state.statements.map Statement.toJson)
  | .messages => state.conversation.toJson
  | .bindings => .object state.bindings.entries
  | .engine => .object state.namespaceValues

/-- The diagnostic text that a payload asks for. -/
def dump (state : ExecutionState) (payload : String) : Except RunError String := do
  let parts ← StateSection.ofPayload payload
  let members := parts.map fun part => (part.name, state.sectionJson part)
  return (Json.ofMembers members).sorted.renderIndented

/-- Takes in a failed call that a script wrote: the call with its failed result. -/
def recordFailure (state : ExecutionState) (invocation : Invocation) (error : RunError) :
    ExecutionState :=
  let id := CallIds.fresh state.conversation.callIds invocation.name
  let call : Call := ⟨id, invocation.name, invocation.arguments⟩
  (state.appendCall call).push
    (Exchange.resultMessage [Exchange.failedResult call error.message])

/-- Takes in what a function answered: into a variable, or else into the conversation. -/
def takeAnswer (state : ExecutionState) (invocation : Invocation)
    (answer : Except RunError String) : Except RunError ExecutionState :=
  match invocation.target, answer with
  | some target, .ok text => state.assign target (.string text)
  | some _, .error error => .error error
  | none, .ok text => .ok (state.appendText text)
  | none, .error error => .ok (state.recordFailure invocation error)

end ExecutionState

namespace Statement

/-- Calls a function. -/
def callFunction (settings : Settings) (state : ExecutionState) (world : World)
    (payload : String) : Outcome :=
  match (state.substitute payload).bind Invocation.ofText with
  | .error error => (.error error, state, world)
  | .ok invocation =>
    match world.refreshFunctions settings with
    | (.error error, world) => (.error error, state, world)
    | (.ok (), world) =>
      if world.registry.contains invocation.name then
        let (answer, world) := world.invoke settings invocation.name invocation.arguments
        Outcome.ofChange state world (state.takeAnswer invocation answer)
      else (.error (.functionNotFound invocation.name), state, world)

/-- Shows a text. -/
def emit (state : ExecutionState) (world : World) (payload : String) : Outcome :=
  match state.substitute payload with
  | .ok text => (.ok (), state, world.print text)
  | .error error => (.error error, state, world)

/-- Gives out a diagnostic text. -/
def debug (state : ExecutionState) (world : World) (payload : String) : Outcome :=
  match state.dump payload with
  | .ok text => (.ok (), state, world.diagnose text)
  | .error error => (.error error, state, world)

/-- Deletes the files among some paths; what cannot be deleted stays. -/
def deletePaths (tree : FileTree) (paths : List String) : FileTree :=
  paths.foldl (fun tree path =>
    if tree.isDirectory path then tree else (tree.removeFile path).toOption.getD tree) tree

/-- Deletes the files that patterns name, one pattern after another. -/
def deletePatterns (base : String) (tree : FileTree) (patterns : List String) : FileTree :=
  patterns.foldl (fun tree pattern => deletePaths tree (Pattern.expand tree pattern base)) tree

/-- Deletes files. -/
def delete (settings : Settings) (state : ExecutionState) (world : World) (payload : String) :
    Outcome :=
  match (state.substitute payload).bind readPatterns with
  | .error error => (.error error, state, world)
  | .ok patterns =>
    (.ok (), state,
      { world with tree := deletePatterns settings.workingBase world.tree patterns })

/-- Runs a statement. -/
def perform (settings : Settings) (statement : Statement) (state : ExecutionState)
    (world : World) : Outcome :=
  let change := Outcome.ofChange state world
  match statement.kind with
  | .comment | .halt => (.ok (), state, world)
  | .systemMessage => change (state.say .system statement.payload)
  | .userMessage => change (state.say .user statement.payload)
  | .assistantMessage => change (state.say .assistant statement.payload)
  | .continuationText => change (state.continueText statement.payload)
  | .toolCall => change (state.writeCall statement.payload)
  | .toolResult => change (state.writeResult statement.payload)
  | .setVariable => change (state.setVariable statement.payload)
  | .includeFile => change (state.includeFile settings world statement.payload)
  | .attachImage => change (state.attachImage settings world statement.payload)
  | .setModel =>
    let (result, next) := state.chooseModel settings.catalog statement.payload
    (result, next, world)
  | .exec => Exchange.run settings state world
  | .callFunction => callFunction settings state world statement.payload
  | .emitOutput => emit state world statement.payload
  | .debugDump => debug state world statement.payload
  | .deleteFiles => delete settings state world statement.payload

end Statement

end PromptScript
