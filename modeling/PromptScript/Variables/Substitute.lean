import PromptScript.Variables.Store
import PromptScript.Text.Basic

/-!
# Substitution

Every span between an opening and a closing delimiter is replaced by the value that the text in
between names.  A span begins at the first opening delimiter and ends at the first closing one
behind it; what has been put in is not read again, and an opening delimiter that is never closed
stands for itself.
-/

namespace PromptScript

namespace Variables

/-- The delimiter that a variable holds, or else the default. -/
def delimiter (bindings : Variables) (name fallback : String) : List Char :=
  match bindings.getText? name with
  | some text => if text.isEmpty then fallback.toList else text.toList
  | none => fallback.toList

/-- The opening delimiter in force. -/
def opener (bindings : Variables) : List Char :=
  bindings.delimiter openerName defaultOpener

/-- The closing delimiter in force. -/
def closer (bindings : Variables) : List Char :=
  bindings.delimiter closerName defaultCloser

/-- The value that a token names: a variable, a member of an object that a variable holds, or a
value of the engine's namespace. -/
def resolve? (bindings : Variables) (engine : List (String × Json)) (token : String) :
    Option Json :=
  match Text.cutAt? '.' token.toList with
  | some (before, after) =>
    let name := String.ofList before
    let member := String.ofList after
    if name = "VM" then Json.lookup? member engine
    else (bindings.get? name).bind (Json.member? member)
  | none => bindings.get? token

/-- The first span of a text: the text before it, the text between its delimiters and the text
behind it. -/
def nextSpan? (opener closer text : List Char) :
    Option (List Char × List Char × List Char) := do
  let (before, behindOpener) ← Text.cutAtText? opener text
  let (token, rest) ← Text.cutAtText? closer behindOpener
  return (before, token, rest)

/-- Replaces the spans of a text.  The fuel bounds the number of characters. -/
def substituteChars (bindings : Variables) (engine : List (String × Json))
    (opener closer : List Char) : Nat → List Char → Except RunError (List Char)
  | 0, text => .ok text
  | fuel + 1, text =>
    match nextSpan? opener closer text with
    | none => .ok text
    | some (before, raw, rest) =>
      let token := String.ofList (Text.dropAround raw)
      match bindings.resolve? engine token with
      | none => .error (.undefinedVariable token)
      | some value =>
        (substituteChars bindings engine opener closer fuel rest).map fun later =>
          before ++ (display value).toList ++ later

/-- The text with every span replaced by the value that it names. -/
def substitute (bindings : Variables) (engine : List (String × Json)) (text : String) :
    Except RunError String :=
  let chars := text.toList
  (substituteChars bindings engine bindings.opener bindings.closer chars.length chars).map
    String.ofList

end Variables

end PromptScript
