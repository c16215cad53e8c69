import PromptScript.Text.Basic

/-!
# Command-line arguments

What the words of a command line ask for.  The first word that is no option names the command; the
words behind it are its operands.  Options may stand anywhere among the words, short ones also
together, and behind `--` every word is an operand.
-/

namespace PromptScript.CommandLine

/-- What is to be done. -/
inductive Command where
  | run (script : String) (assignments : List String) (saves quiet : Bool)
  | check (script : String)
  | reply (sessionId : String) (message : List String)
  | functions
  | models
  | sessions
  deriving DecidableEq, Repr

/-- A command with the options that all commands take. -/
structure Request where
  command : Command
  /-- The file of settings, where one is named. -/
  config : Option String
  deriving DecidableEq, Repr

/-- What a command line asks for. -/
inductive Reading where
  | request (request : Request)
  | help
  | version
  /-- The words are no command line. -/
  | misuse
  deriving DecidableEq, Repr

/-- The name of a command. -/
inductive CommandName where
  | run
  | check
  | reply
  | functions
  | models
  | sessions
  | help
  deriving DecidableEq, Repr

namespace CommandName

/-- The command that a word names. -/
def ofWord? : String → Option CommandName
  | "run" => some run
  | "check" => some check
  | "reply" => some reply
  | "functions" => some functions
  | "models" => some models
  | "sessions" => some sessions
  | "help" => some help
  | _ => none

end CommandName

/-- What was read of a command line so far. -/
structure Draft where
  name : Option CommandName
  operands : List String
  assignments : List String
  noSave : Bool
  quiet : Bool
  /-- The file of settings named before the command. -/
  outerConfig : Option String
  /-- The file of settings named behind the command. -/
  innerConfig : Option String
  deriving DecidableEq, Repr

namespace Draft

/-- Nothing was read. -/
def empty : Draft := ⟨none, [], [], false, false, none, none⟩

/-- Takes in a word that is no option. -/
def addWord (draft : Draft) (word : String) : Except Reading Draft :=
  match draft.name with
  | some _ => .ok { draft with operands := draft.operands ++ [word] }
  | none =>
    match CommandName.ofWord? word with
    | some name => .ok { draft with name := some name }
    | none => .error .misuse

/-- Takes in the name of a file of settings, at most once before and once behind the command. -/
def addConfig (draft : Draft) (path : String) : Except Reading Draft :=
  if path.isEmpty then .error .misuse
  else
    match draft.name, draft.outerConfig, draft.innerConfig with
    | none, none, _ => .ok { draft with outerConfig := some path }
    | some _, _, none => .ok { draft with innerConfig := some path }
    | _, _, _ => .error .misuse

/-- Takes in an assignment. -/
def addAssignment (draft : Draft) (text : String) : Draft :=
  { draft with assignments := draft.assignments ++ [text] }

/-- Takes in the option against saving. -/
def addNoSave (draft : Draft) : Except Reading Draft :=
  if draft.name = some .run ∧ !draft.noSave then .ok { draft with noSave := true }
  else .error .misuse

/-- Takes in the option against output. -/
def addQuiet (draft : Draft) : Except Reading Draft :=
  if draft.name = some .run ∧ !draft.quiet then .ok { draft with quiet := true }
  else .error .misuse

/-- Takes in the request for the version, which only stands before the command. -/
def addVersion (draft : Draft) : Except Reading Draft :=
  if draft.name.isNone then .error .version else .error .misuse

/-- Takes in short options that stand in one word. -/
def addShort (draft : Draft) : List Char → Except Reading Draft
  | [] => .ok draft
  | 'v' :: rest => addShort draft rest
  | 'q' :: rest =>
    match draft.addQuiet with
    | .ok next => addShort next rest
    | .error reading => .error reading
  | 'h' :: _ => .error .help
  | 'V' :: _ => draft.addVersion
  | _ => .error .misuse

/-- Takes in a long option without a value. -/
def addLong (draft : Draft) (name : String) : Except Reading Draft :=
  match name with
  | "verbose" => .ok draft
  | "no-save" => draft.addNoSave
  | "quiet" => draft.addQuiet
  | "help" => .error .help
  | "version" => draft.addVersion
  | _ => .error .misuse

/-- Takes in a long option with a value. -/
def addValue (draft : Draft) (name value : String) : Except Reading Draft :=
  match name with
  | "config" => draft.addConfig value
  | "set" => if draft.name = some .run then .ok (draft.addAssignment value) else .error .misuse
  | _ => .error .misuse

/-- Whether a long option takes a value. -/
def takesValue (name : String) : Bool :=
  name == "config" || name == "set"

/-- Whether a word can be the value of the option before it. -/
def isValue (word : String) : Bool :=
  word == "-" || !word.startsWith "-"

/-- Takes in words that are no options. -/
def addWords (draft : Draft) : List String → Except Reading Draft
  | [] => .ok draft
  | word :: rest =>
    if draft.name.isNone then .error .misuse
    else addWords { draft with operands := draft.operands ++ [word] } rest

/-- Takes in words up to the end. -/
def addAll (draft : Draft) : List String → Except Reading Draft
  | [] => .ok draft
  | word :: rest =>
    match word.toList with
    | ['-', '-'] => draft.addWords rest
    | '-' :: '-' :: option =>
      match Text.cutAt? '=' option with
      | some (name, value) =>
        match draft.addValue (String.ofList name) (String.ofList value) with
        | .ok next => addAll next rest
        | .error reading => .error reading
      | none =>
        if takesValue (String.ofList option) then
          match rest with
          | [] => .error .misuse
          | value :: later =>
            if isValue value then
              match draft.addValue (String.ofList option) value with
              | .ok next => addAll next later
              | .error reading => .error reading
            else .error .misuse
        else
          match draft.addLong (String.ofList option) with
          | .ok next => addAll next rest
          | .error reading => .error reading
    | '-' :: letter :: letters =>
      match draft.addShort (letter :: letters) with
      | .ok next => addAll next rest
      | .error reading => .error reading
    | _ =>
      match draft.addWord word with
      | .ok next => addAll next rest
      | .error reading => .error reading

/-- The command of what was read. -/
def command? (draft : Draft) : Option Command :=
  match draft.name, draft.operands with
  | some .run, [script] =>
    if script.isEmpty then none
    else some (.run script draft.assignments (!draft.noSave) draft.quiet)
  | some .check, [script] => if script.isEmpty then none else some (.check script)
  | some .reply, sessionId :: message => some (.reply sessionId message)
  | some .functions, [] => some .functions
  | some .models, [] => some .models
  | some .sessions, [] => some .sessions
  | _, _ => none

/-- What the words that were read ask for. -/
def reading (draft : Draft) : Reading :=
  match draft.name, draft.operands with
  | some .help, [] => .help
  | some .help, [word] => if (CommandName.ofWord? word).isSome then .help else .misuse
  | _, _ =>
    match draft.command? with
    | some command => .request ⟨command, draft.innerConfig.orElse fun _ => draft.outerConfig⟩
    | none => .misuse

end Draft

/-- What the words of a command line ask for. -/
def Reading.ofWords (words : List String) : Reading :=
  match Draft.empty.addAll words with
  | .ok draft => draft.reading
  | .error reading => reading

end PromptScript.CommandLine
