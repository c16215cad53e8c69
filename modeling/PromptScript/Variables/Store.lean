import PromptScript.Json.Printer
import PromptScript.Json.Reader
import PromptScript.RunError
import PromptScript.Text.Basic

/-!
# Variables

A script's variables are named JSON values.  Two of them hold the delimiters of substitution.
Names in the namespace `VM` belong to the engine and cannot be given a value.
-/

namespace PromptScript

/-- The variables of a script in the order of their names. -/
structure Variables where
  entries : List (String × Json)
  deriving DecidableEq, Repr

namespace Variables

/-- The name of the variable that holds the opening delimiter. -/
def openerName : String := "Prefix"

/-- The name of the variable that holds the closing delimiter. -/
def closerName : String := "Postfix"

/-- The name of the variable that holds the reply to the last request. -/
def lastResponseName : String := "last_response"

/-- The name of the variable that holds the model. -/
def modelName : String := "model"

/-- The opening delimiter where its variable holds no text. -/
def defaultOpener : String := "<<"

/-- The closing delimiter where its variable holds no text. -/
def defaultCloser : String := ">>"

/-- The variables at the beginning of a run. -/
def initial : Variables :=
  ⟨[(closerName, .string defaultCloser), (openerName, .string defaultOpener)]⟩

/-- The value of a variable. -/
def get? (bindings : Variables) (name : String) : Option Json :=
  Json.lookup? name bindings.entries

/-- The value of a variable that holds a string. -/
def getText? (bindings : Variables) (name : String) : Option String :=
  (bindings.get? name).bind Json.asString?

/-- Whether there is a variable of the given name. -/
def contains (bindings : Variables) (name : String) : Bool :=
  (bindings.get? name).isSome

/-- Gives a variable a value, whatever its name. -/
def insert (bindings : Variables) (name : String) (value : Json) : Variables :=
  ⟨Json.insertMember name value bindings.entries⟩

/-- Whether a name is `VM` or lies in that namespace. -/
def isReserved (name : String) : Bool :=
  match name.toList with
  | ['V', 'M'] => true
  | 'V' :: 'M' :: '.' :: _ => true
  | _ => false

/-- Gives a variable a value.  Names of the engine's namespace and the empty name are refused. -/
def set (bindings : Variables) (name : String) (value : Json) : Except RunError Variables :=
  if isReserved name then .error (.readOnlyVariable name)
  else if name.isEmpty then .error (.invalidArgument "variable name must not be empty")
  else .ok (bindings.insert name value)

/-- The text form of a value: a string is its own text, every other value is written as JSON. -/
def display : Json → String
  | .string text => text
  | other => other.render

/-- The value that a text stands for: the JSON value it writes, or else the text. -/
def valueOfText (raw : String) : Json :=
  (Json.parse? raw).getD (.string raw)

end Variables

end PromptScript
