import PromptScript.Text.Case

/-!
# Credentials

The keys of providers stand in variables of the environment: `<PROVIDER>_API_KEY`, unless the
configuration names another variable.
-/

namespace PromptScript

/-- The variables of the environment that the configuration names, with their providers. -/
structure KeyVariables where
  names : List (String × String)
  deriving DecidableEq, Repr

namespace KeyVariables

/-- The variable that holds the key of a provider. -/
def nameFor (keys : KeyVariables) (provider : String) : String :=
  match keys.names.find? fun entry => entry.1 == provider with
  | some (_, name) => name
  | none => Text.uppercase provider ++ "_API_KEY"

/-- The key of a provider in an environment; an empty variable holds none. -/
def key? (keys : KeyVariables) (environment : List (String × String)) (provider : String) :
    Option String :=
  match environment.find? fun entry => entry.1 == keys.nameFor provider with
  | some (_, value) => if value.isEmpty then none else some value
  | none => none

end KeyVariables

end PromptScript
