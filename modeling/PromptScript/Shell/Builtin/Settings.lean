import PromptScript.Shell.Builtin.Arguments

/-!
# Options, arguments and variables

The commands that change the options and arguments of a shell, its variables and its aliases.
-/

namespace PromptScript.Shell.Builtin

/-- The names of the options with their letters, in the order in which they are listed.  Some have
no letter. -/
def optionNames : List (String × Option Char) :=
  [("errexit", some 'e'), ("noglob", some 'f'), ("ignoreeof", some 'I'),
    ("interactive", some 'i'), ("monitor", some 'm'), ("noexec", some 'n'), ("stdin", some 's'),
    ("xtrace", some 'x'), ("verbose", some 'v'), ("vi", some 'V'), ("emacs", some 'E'),
    ("noclobber", some 'C'), ("allexport", some 'a'), ("notify", some 'b'),
    ("nounset", some 'u'), ("privileged", some 'p'), ("nolog", some '\x01'),
    ("debug", some '\x02')]

/-- Turns an option on or off. -/
def switch (letter : Char) (on : Bool) : Action Unit :=
  modify fun shell =>
    let others := shell.options.filter (· != letter)
    { shell with options := if on then letter :: others else others }

/-- Turns the option with a letter on or off. -/
def switchLetter (letter : Char) (on : Bool) : Action Unit := do
  if optionNames.any fun entry => entry.2 == some letter then switch letter on
  else Action.fail (octets "Illegal option -" ++ [letter])

/-- Lists the options, as a table or as commands. -/
def listOptions (asTable : Bool) : Action Unit := do
  let shell ← get
  if asTable then Action.print (octets "Current option settings\n")
  for (name, letter?) in optionNames do
    let on := letter?.any shell.isOn
    if asTable then
      Action.print (octets name ++ List.replicate (16 - name.length) ' '
        ++ octets (if on then "on\n" else "off\n"))
    else Action.print (octets ("set " ++ (if on then "-" else "+") ++ "o " ++ name ++ "\n"))

/-- Turns the option with a name on or off, or lists the options where there is no name. -/
def switchNamed (name? : Option Octets) (on : Bool) : Action Unit := do
  match name? with
  | none => listOptions on
  | some name =>
    match optionNames.find? fun entry => entry.1.toList == name with
    | some (_, some letter) => switch letter on
    | _ => Action.fail (octets "Illegal option -o " ++ name)

/-- Switches the options of one group of letters; the result is what is left of the words. -/
def switchGroup (on isStart : Bool) : Octets → List Octets → Action (List Octets × Bool)
  | [], rest => return (rest, false)
  | letter :: letters, rest => do
    if letter == 'o' then
      switchNamed rest.head? on
      switchGroup on isStart letters (rest.drop 1)
    else if letter == 'c' && isStart then
      let (rest, _) ← switchGroup on isStart letters rest
      return (rest, true)
    else if letter == 'l' && isStart then switchGroup on isStart letters rest
    else
      switchLetter letter on
      switchGroup on isStart letters rest

/-- Switches the options at the beginning of some words: what is left, whether the options ended
with a mark, and whether a command text is announced. -/
def switchAll (isStart : Bool) : Nat → List Octets → Action (List Octets × Bool × Bool)
  | 0, words => return (words, false, false)
  | fuel + 1, words => do
    match words with
    | ['-'] :: rest =>
      if !isStart then
        switch 'x' false
        switch 'v' false
      return (rest, false, false)
    | ['-', '-'] :: rest => return (rest, true, false)
    | ('-' :: letters) :: rest => further true letters rest fuel
    | ('+' :: letters) :: rest => further false letters rest fuel
    | _ => return (words, false, false)
where
  further (on : Bool) (letters : Octets) (rest : List Octets) (fuel : Nat) :
      Action (List Octets × Bool × Bool) := do
    let (rest, isCommand) ← switchGroup on isStart letters rest
    let (rest, ended, later) ← switchAll isStart fuel rest
    return (rest, ended, isCommand || later)

/-- Lists variables behind a word, in the order of their names. -/
def listVariables (lead : Octets) (chosen : Variable → Bool) : Action Unit := do
  let entries := (← get).bindings.filter fun entry => chosen entry.2
  for (name, entry) in entries.mergeSort fun a b => !(String.ofList b.1 < String.ofList a.1) do
    let value := match entry.value? with
      | some value => '=' :: singleQuoted value
      | none => []
    Action.print (lead ++ name ++ value ++ ['\n'])

/-- Sets options and arguments. -/
def setOptions (words : List Octets) : Action Nat := do
  if words.isEmpty then listVariables [] fun entry => entry.value?.isSome
  else
    let (rest, ended, _) ← switchAll false (words.length + 1) words
    if ended || !rest.isEmpty then modify fun shell => { shell with arguments := rest }
  return 0

/-- Takes arguments away. -/
def shift (words : List Octets) : Action Nat := do
  let count ← match words with
    | [] => pure 1
    | word :: _ => number word
  if (← get).arguments.length < count then Action.fail (octets "can't shift that many")
  modify fun shell => { shell with arguments := shell.arguments.drop count }
  return 0

/-- The name in a word that may be an assignment, and its value.  The name must be one. -/
def nameAndValue (word : Octets) : Action (Octets × Option Octets) := do
  let name := word.takeWhile (· != '=')
  if !isName name then Action.fail (name ++ octets ": bad variable name")
  return (name, if name.length < word.length then some (word.drop (name.length + 1)) else none)

/-- Marks variables, which may get values, or lists those that are marked. -/
def markVariables (command : String) (isMarked : Variable → Bool) (mark : Variable → Variable)
    (words : List Octets) : Action Nat := do
  let (options, operands) ← optionsOf [('p', false)] words
  if has options 'p' || operands.isEmpty then listVariables (octets command ++ [' ']) isMarked
  else
    for word in operands do
      let (name, value?) ← nameAndValue word
      if let some value := value? then Action.assign name value
      modify fun shell =>
        shell.bind name (mark ((shell.bindings.lookup name).getD { value? := none }))
  return 0

/-- Lets commands see variables. -/
def exportVariables : List Octets → Action Nat :=
  markVariables "export" (·.isExported) fun entry => { entry with isExported := true }

/-- Protects variables from changes. -/
def fixVariables : List Octets → Action Nat :=
  markVariables "readonly" (·.isFixed) fun entry => { entry with isFixed := true }

/-- Keeps what a variable is, to be put back when the running function ends. -/
def hide (name : Octets) : Action Unit :=
  modify fun shell =>
    match shell.hidden with
    | frame :: others =>
      if frame.any fun entry => entry.1 == name then shell
      else { shell with hidden := ((name, shell.bindings.lookup name) :: frame) :: others }
    | [] => shell

/-- Makes variables those of the running function. -/
def makeLocal (words : List Octets) : Action Nat := do
  if (← get).hidden.isEmpty then Action.fail (octets "not in a function")
  for word in ← operandsOf words do
    if word == ['-'] then continue
    let (name, value?) ← nameAndValue word
    hide name
    if let some value := value? then Action.assign name value
  return 0

/-- Takes variables or functions away. -/
def unset (words : List Octets) : Action Nat := do
  let (options, operands) ← optionsOf [('v', false), ('f', false)] words
  let isFunction := options.getLast?.any fun option => option.1 == 'f'
  for name in operands do
    if isFunction then
      modify fun shell =>
        { shell with functions := shell.functions.filter fun entry => entry.1 != name }
    else
      if !isName name then Action.fail (name ++ octets ": bad variable name")
      if ((← get).bindings.lookup name).any (·.isFixed) then
        Action.fail (name ++ octets ": is read only")
      modify fun shell => shell.forget name
  return 0

/-- The text that lists an alias. -/
def aliasText (name value : Octets) : Octets :=
  name ++ '=' :: singleQuoted value ++ ['\n']

/-- Sets or lists aliases. -/
def setAliases (words : List Octets) : Action Nat := do
  if words.isEmpty then
    for (name, value) in (← get).aliases do
      Action.print (aliasText name value)
  let mut status := 0
  for word in words do
    let name := word.take 1 ++ (word.drop 1).takeWhile (· != '=')
    if name.length < word.length then
      modify fun shell =>
        { shell with
          aliases := (name, word.drop (name.length + 1))
            :: shell.aliases.filter fun entry => entry.1 != name }
    else
      match (← get).aliases.lookup word with
      | some value => Action.print (aliasText word value)
      | none =>
        Action.complain (octets "alias: " ++ word ++ octets " not found\n")
        status := 1
  return status

/-- Takes aliases away. -/
def unsetAliases (words : List Octets) : Action Nat := do
  let (options, operands) ← optionsOf [('a', false)] words
  if has options 'a' then modify fun shell => { shell with aliases := [] }
  let mut status := 0
  for name in operands do
    if ((← get).aliases.lookup name).isNone then
      Action.complain (octets "unalias: " ++ name ++ octets " not found\n")
      status := 1
    modify fun shell =>
      { shell with aliases := shell.aliases.filter fun entry => entry.1 != name }
  return status

end PromptScript.Shell.Builtin
