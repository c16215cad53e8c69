import PromptScript.Shell.Builtin.Places
import PromptScript.Shell.Builtin.Signals
import PromptScript.Shell.Condition
import PromptScript.Shell.Tool.Basic
import PromptScript.Shell.Tool.Blocks
import PromptScript.Shell.Tool.Calculation
import PromptScript.Shell.Tool.Checksum
import PromptScript.Shell.Tool.Columns
import PromptScript.Shell.Tool.Copying
import PromptScript.Shell.Tool.Files
import PromptScript.Shell.Tool.Find
import PromptScript.Shell.Tool.Letters
import PromptScript.Shell.Tool.Listing
import PromptScript.Shell.Tool.Notation
import PromptScript.Shell.Tool.Order
import PromptScript.Shell.Tool.Paths
import PromptScript.Shell.Tool.Processes
import PromptScript.Shell.Tool.Report
import PromptScript.Shell.Tool.Scripted
import PromptScript.Shell.Tool.Search
import PromptScript.Shell.Tool.Sequence
import PromptScript.Shell.Tool.Surroundings

/-!
# The tools

The standard tools by their names.
-/

/-!
## Programs that shells have as commands too

The programs of the same names as commands of the shell, which other tools start.
-/

namespace PromptScript.Shell.Tool

/-- Does nothing, with success. -/
def succeed : Tool := fun _ _ => return 0

/-- Does nothing, without success. -/
def doFail : Tool := fun _ _ => return 1

namespace Plain

/-- The options at the beginning of the words to print: whether a line feed follows, whether escapes
count, and the words behind. -/
def echoOptions (feed escapes : Bool) : List Octets → Bool × Bool × List Octets
  | word :: rest =>
    match word with
    | '-' :: letters =>
      if !letters.isEmpty && letters.all (· ∈ ['n', 'e', 'E']) then
        let escapes := letters.foldl (fun escapes letter =>
          if letter == 'e' then true else if letter == 'E' then false else escapes) escapes
        echoOptions (feed && !letters.contains 'n') escapes rest
      else (feed, escapes, word :: rest)
    | _ => (feed, escapes, word :: rest)
  | [] => (feed, escapes, [])

/-- Puts the characters of escapes into a text; with the two letters e and x more escapes count than
in the shell. -/
def unescape : Nat → Octets → Printf.Printed
  | 0, _ => ⟨[], false⟩
  | fuel + 1, text =>
    let put (c : Char) (rest : Octets) : Printf.Printed :=
      let later := unescape fuel rest
      ⟨c :: later.text, later.stops⟩
    match text with
    | '\\' :: 'e' :: rest => put '\x1b' rest
    | '\\' :: 'x' :: rest =>
      let digits := (rest.take 2).takeWhile (Integer.isDigitIn 16)
      if digits.isEmpty then
        let later := put 'x' rest
        ⟨'\\' :: later.text, later.stops⟩
      else put (Char.ofNat (Integer.ofDigits 16 digits)) (rest.drop digits.length)
    | '\\' :: 'c' :: _ => ⟨[], true⟩
    | '\\' :: '0' :: rest =>
      let digits := Printf.octalDigits 3 rest
      put (Printf.octalChar digits) (rest.drop digits.length)
    | '\\' :: rest =>
      let (c, rest) := Printf.escape rest
      put c rest
    | c :: rest => put c rest
    | [] => ⟨[], false⟩

end Plain

/-- Prints its words. -/
def echo : Tool := fun _ words => do
  let (feed, escapes, words) := Plain.echoOptions true false words
  let text := [' '].intercalate words
  let printed := if escapes then Plain.unescape (text.length + 1) text else ⟨text, false⟩
  Action.print (printed.text ++ if feed && !printed.stops then ['\n'] else [])
  return 0

/-- Prints its words by a format. -/
def printf : Tool := fun _ words => Printf.run words

/-- Tests a condition. -/
def test (isTool : String → Bool) (name : String) : Tool := fun _ words => do
  let setting : Condition.Setting := { tree := (← get).tree, isProgram := isTool }
  match Condition.test setting name.toList words with
  | .ok holds => return if holds then 0 else 1
  | .error fault => stop 2 fault.message

/-- Prints the working directory. -/
def pwd : Tool := fun _ _ => do
  Action.print (Builtin.pathOf (← get).tree.workingDirectory ++ ['\n'])
  return 0

/-- Sends signals. -/
def kill : Tool := fun _ words => Builtin.kill words

/-- The tools that look at no names of others. -/
def independent : List (String × Tool) :=
  [("awk", awk), ("base32", base32), ("base64", base64), ("basename", basename), ("cat", cat),
    ("chmod", chmod), ("cksum", cksum), ("cmp", cmp), ("comm", comm), ("cp", cp), ("cut", cut),
    ("date", date), ("dd", dd), ("dirname", dirname), ("echo", echo), ("egrep", egrep),
    ("env", env), ("expand", expand), ("expr", expr), ("factor", factor), ("false", doFail),
    ("fgrep", fgrep), ("find", find), ("fold", fold), ("grep", grep), ("head", head),
    ("hostname", hostname), ("id", id), ("join", join), ("kill", kill), ("ls", ls), ("mawk", awk),
    ("md5sum", Checksum.tool Checksum.md5), ("mkdir", mkdir), ("mktemp", mktemp), ("mv", mv),
    ("nice", nice), ("nl", nl), ("nohup", nohup), ("nproc", nproc), ("od", od), ("paste", paste),
    ("printenv", printenv), ("printf", printf), ("pwd", pwd), ("readlink", readlink),
    ("realpath", realpath), ("rev", rev), ("rm", rm), ("rmdir", rmdir), ("sed", sed), ("seq", seq),
    ("setsid", setsid), ("sha1sum", Checksum.tool Checksum.sha1),
    ("sha224sum", Checksum.tool Checksum.sha224), ("sha256sum", Checksum.tool Checksum.sha256),
    ("sha384sum", Checksum.tool Checksum.sha384), ("sha512sum", Checksum.tool Checksum.sha512),
    ("sleep", sleep), ("sort", sort), ("stat", stat), ("stdbuf", stdbuf), ("sum", sum),
    ("sync", sync), ("tac", tac), ("tail", tail), ("tee", tee), ("timeout", timeout),
    ("touch", touch), ("tr", tr), ("true", succeed), ("truncate", truncate), ("tty", tty),
    ("uname", uname), ("unexpand", unexpand), ("uniq", uniq), ("wc", wc), ("whoami", whoami),
    ("xargs", xargs), ("yes", yes)]

/-- Whether a name is that of a tool. -/
def isName (name : String) : Bool :=
  ["test", "[", "which"].contains name || independent.any fun entry => entry.1 == name

/-- The tool with a name. -/
def ofName? (name : String) : Option Tool :=
  if name == "test" || name == "[" then some (test isName name)
  else if name == "which" then some (which fun name => isName name || Launch.shellNames.contains name)
  else independent.lookup name

end PromptScript.Shell.Tool
