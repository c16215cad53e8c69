import PromptScript.Conversation.Message

/-!
# Pairing of calls and results

In a well-formed conversation no two calls share an identifier, each call has exactly one result
with its identifier, which stands behind it, and each result answers an earlier call.
-/

namespace PromptScript

/-- How calls and results fail to pair. -/
inductive PairingError where
  | repeatedCall (id : String)
  | repeatedResult (id : String)
  | unansweredCall (id : String)
  | strayResult (id : String)
  deriving DecidableEq, Repr

/-- The wording of a pairing error. -/
def PairingError.message : PairingError → String
  | repeatedCall id => "function call id '" ++ id ++ "' is used twice"
  | repeatedResult id => "function call '" ++ id ++ "' has more than one result"
  | unansweredCall id => "function call '" ++ id ++ "' has no result"
  | strayResult id => "function result '" ++ id ++ "' does not answer any earlier call"

namespace Conversation

/-- Notes a result for the call with its identifier.  Each entry holds a call's identifier and
whether it has been answered. -/
def answer (id : String) :
    List (String × Bool) → Except PairingError (List (String × Bool))
  | [] => .error (.strayResult id)
  | (other, answered) :: rest =>
    if other = id then
      if answered then .error (.repeatedResult id) else .ok ((other, true) :: rest)
    else (answer id rest).map ((other, answered) :: ·)

/-- Reads blocks, given the calls before them. -/
def pairBlocks (pending : List (String × Bool)) : List Block → Except PairingError Unit
  | [] =>
    match pending.find? fun entry => !entry.2 with
    | some (id, _) => .error (.unansweredCall id)
    | none => .ok ()
  | .call call :: rest =>
    if pending.any fun entry => entry.1 == call.id then .error (.repeatedCall call.id)
    else pairBlocks (pending ++ [(call.id, false)]) rest
  | .result result :: rest =>
    match answer result.id pending with
    | .ok next => pairBlocks next rest
    | .error error => .error error
  | .text _ :: rest | .image _ :: rest => pairBlocks pending rest

/-- Checks that the calls and results of a conversation pair. -/
def checkPairing (conversation : Conversation) : Except PairingError Unit :=
  pairBlocks [] conversation.blocks

end Conversation

/-!
## Identifiers of calls

A decoded call without an identifier, or with one that is taken, gets a new one: the function's
name and the first number that is free beyond the number of identifiers taken so far.
-/

/-- The identifiers of a conversation's calls, each once. -/
def Conversation.callIds (conversation : Conversation) : List String :=
  ((conversation.flatMap Message.calls).map Call.id).eraseDups

namespace CallIds

/-- The identifier with a number. -/
def numbered (name : String) (number : Nat) : String :=
  name ++ "-" ++ toString number

/-- The first identifier of a name that is not taken; `taken` holds each identifier once. -/
def fresh (taken : List String) (name : String) : String :=
  let candidates := (List.range (taken.length + 1)).map fun offset =>
    numbered name (taken.length + 1 + offset)
  (candidates.find? fun id => !taken.contains id).getD name

/-- The identifiers taken after one more. -/
def take (taken : List String) (id : String) : List String :=
  if taken.contains id then taken else taken ++ [id]

/-- Gives the calls of some blocks their identifiers, and the identifiers taken afterwards. -/
def assignBlocks (taken : List String) : List Block → List Block × List String
  | [] => ([], taken)
  | .call call :: rest =>
    let id := if call.id.isEmpty || taken.contains call.id then fresh taken call.name else call.id
    let (later, final) := assignBlocks (take taken id) rest
    (.call { call with id } :: later, final)
  | block :: rest =>
    let (later, final) := assignBlocks taken rest
    (block :: later, final)

/-- Gives the calls of some messages their identifiers. -/
def assignMessages (taken : List String) : List Message → List Message
  | [] => []
  | message :: rest =>
    let (content, later) := assignBlocks taken message.content
    { message with content } :: assignMessages later rest

/-- Gives the calls of messages identifiers that are new to a conversation. -/
def assign (conversation : Conversation) (messages : List Message) : List Message :=
  assignMessages conversation.callIds messages

end CallIds

end PromptScript
