import PromptScript.Shell.Launch
import PromptScript.Shell.Tool.Basic
import PromptScript.Timestamp

/-!
# Surroundings

Tools that print facts about the user, the machine, the time and the places of programs.
-/

namespace PromptScript.Shell.Tool

/-- Prints who the user is. -/
def id : Tool := fun _ words => do
  let (options, _) ← optionsOf
    { letters := plainLetters "ugGnr"
      names := [("user", 'u'), ("group", 'g'), ("groups", 'G'), ("name", 'n'), ("real", 'r')] } words
  let isOne := has options 'u' || has options 'g' || has options 'G'
  Action.print (octets (if !isOne then "uid=0(root) gid=0(root) groups=0(root)\n"
    else if has options 'n' then "root\n" else "0\n"))
  return 0

/-- Prints the name of the user. -/
def whoami : Tool := fun _ words => do
  let (_, operands) ← optionsOf {} words
  if let extra :: _ := operands then misuse 1 (octets "extra operand " ++ quoted extra)
  Action.print (octets "root\n")
  return 0

/-- Prints facts about the system. -/
def uname : Tool := fun _ words => do
  let (options, operands) ← optionsOf
    { letters := plainLetters "asnrvmpio"
      names := [("all", 'a'), ("kernel-name", 's'), ("nodename", 'n'), ("kernel-release", 'r'),
        ("kernel-version", 'v'), ("machine", 'm'), ("operating-system", 'o')] } words
  if let extra :: _ := operands then misuse 1 (octets "extra operand " ++ quoted extra)
  let facts := [('s', "Linux"), ('n', "localhost"), ('r', "6.1.0"), ('v', "#1 SMP"),
    ('m', "x86_64"), ('o', "GNU/Linux")]
  let shown := facts.filter fun fact =>
    has options 'a' || has options fact.1 || (options.isEmpty && fact.1 == 's')
  Action.print (octets (" ".intercalate (shown.map (·.2)) ++ "\n"))
  return 0

/-- Prints the name of the machine. -/
def hostname : Tool := fun _ _ => do
  Action.print (octets "localhost\n")
  return 0

/-- Prints the terminal of the standard input, which is none. -/
def tty : Tool := fun _ words => do
  if !words.contains ['-', 's'] then Action.print (octets "not a tty\n")
  return 1

/-- Prints the number of processors. -/
def nproc : Tool := fun _ _ => do
  Action.print ['1', '\n']
  return 0

/-- Writes what is held back to the disks. -/
def sync : Tool := fun _ _ => return 0

/-- Whether a path is that of a file that can be run. -/
def isRunnable (tree : FileTree) (path : Octets) : Bool :=
  match tree.lookup (display path) with
  | .ok (.file file) => file.executable
  | _ => false

/-- Prints where the programs with some names stand; `isTool` knows the names of tools. -/
def which (isTool : String → Bool) : Tool := fun _ words => do
  let letters := (words.takeWhile fun word => word.head? == some '-' && 1 < word.length).map
    (List.drop 1)
  let names := (words.drop letters.length)
  let printAll := letters.flatten.contains 'a'
  let shell ← get
  match letters.flatten.find? fun c => c != 'a' && c != 's' && c != '-' with
  | some letter =>
    Action.complain (octets "Illegal option -" ++ [letter, '\n'])
    Action.print (octets "Usage: /usr/bin/which [-as] args\n")
    return 2
  | none =>
    let searched := (shell.get? "PATH".toList).getD Shell.searchPath
    let mut status := if names.isEmpty then 1 else 0
    for name in names do
      let found := (Launch.candidates searched name).filter fun path =>
        (Launch.standardTool? isTool (display path)).isSome
          || isRunnable shell.tree path
      if found.isEmpty then status := 1
      if !letters.flatten.contains 's' then
        for path in if printAll then found else found.take 1 do
          Action.print (path ++ ['\n'])
    return status

namespace Surroundings

/-- The names of the days, from Sunday on. -/
def dayNames : List String :=
  ["Sunday", "Monday", "Tuesday", "Wednesday", "Thursday", "Friday", "Saturday"]

/-- The names of the months. -/
def monthNames : List String :=
  ["January", "February", "March", "April", "May", "June", "July", "August", "September",
    "October", "November", "December"]

/-- The parts of an instant. -/
structure Moment where
  seconds : Int
  nanoseconds : Nat
  year : Int
  month : Nat
  day : Nat
  /-- The number of the day in the week, Sunday being zero. -/
  weekday : Nat
  /-- The number of the day in the year, from one on. -/
  yearday : Nat
  hour : Nat
  minute : Nat
  second : Nat

/-- The parts of the instant that lies some time after the beginning of 1970. -/
def Moment.ofNanoseconds (total : Int) : Moment :=
  let instant := Timestamp.ofNanoseconds total
  let days := instant.seconds / 86400
  let rest := (instant.seconds % 86400).toNat
  let (year, month, day) := Timestamp.dateOfDays days
  { seconds := instant.seconds
    nanoseconds := instant.nanoseconds
    year
    month
    day
    weekday := ((days + 4) % 7).toNat
    yearday := (days - Timestamp.daysOfDate year 1 1).toNat + 1
    hour := rest / 3600
    minute := rest / 60 % 60
    second := rest % 60 }

/-- A number with characters before it up to a width. -/
def filled (c : Char) (width : Nat) (number : Int) : Octets :=
  let digits := Integer.text number
  List.replicate (width - digits.length) c ++ digits

/-- The year and the number of the week by the rule of weeks that begin on Monday and belong to the
year of their Thursday. -/
def Moment.isoWeek (moment : Moment) : Int × Nat :=
  let days := moment.seconds / 86400
  let monday := (moment.weekday + 6) % 7
  let thursday := days - monday + 3
  let (year, _, _) := Timestamp.dateOfDays thursday
  (year, ((thursday - Timestamp.daysOfDate year 1 1) / 7).toNat + 1)

/-- What a directive of a date shows; none for an unknown letter. -/
def directive? (moment : Moment) (letter : Char) (pad : Option Char) : Option Octets :=
  let two (number : Nat) : Octets := match pad with
    | some '-' => decimal number
    | some '_' => filled ' ' 2 number
    | _ => filled '0' 2 number
  let blankTwo (number : Nat) : Octets := match pad with
    | some '-' => decimal number
    | some '0' => filled '0' 2 number
    | _ => filled ' ' 2 number
  let name (names : List String) (index : Nat) (length : Nat) : Octets :=
    ((names[index]?).getD "").toList.take length
  let clock := two moment.hour ++ ':' :: two moment.minute ++ ':' :: two moment.second
  let date := filled '0' 4 moment.year ++ '-' :: two moment.month ++ '-' :: two moment.day
  let twelve := if moment.hour % 12 = 0 then 12 else moment.hour % 12
  match letter with
  | 'Y' => some (filled '0' 4 moment.year)
  | 'C' => some (two (moment.year / 100).toNat)
  | 'y' => some (two (moment.year % 100).toNat)
  | 'm' => some (two moment.month)
  | 'd' => some (two moment.day)
  | 'e' => some (blankTwo moment.day)
  | 'H' => some (two moment.hour)
  | 'k' => some (blankTwo moment.hour)
  | 'I' => some (two twelve)
  | 'l' => some (blankTwo twelve)
  | 'M' => some (two moment.minute)
  | 'S' => some (two moment.second)
  | 'N' => some (filled '0' 9 moment.nanoseconds)
  | 's' => some (Integer.text moment.seconds)
  | 'j' => some (filled '0' 3 moment.yearday)
  | 'u' => some (decimal (if moment.weekday = 0 then 7 else moment.weekday))
  | 'w' => some (decimal moment.weekday)
  | 'U' => some (two ((moment.yearday + 6 - moment.weekday) / 7))
  | 'W' => some (two ((moment.yearday + 6 - (moment.weekday + 6) % 7) / 7))
  | 'V' => some (two moment.isoWeek.2)
  | 'G' => some (filled '0' 4 moment.isoWeek.1)
  | 'g' => some (two (moment.isoWeek.1 % 100).toNat)
  | 'a' => some (name dayNames moment.weekday 3)
  | 'A' => some (name dayNames moment.weekday 20)
  | 'b' | 'h' => some (name monthNames (moment.month - 1) 3)
  | 'B' => some (name monthNames (moment.month - 1) 20)
  | 'p' => some (octets (if moment.hour < 12 then "AM" else "PM"))
  | 'P' => some (octets (if moment.hour < 12 then "am" else "pm"))
  | 'F' => some date
  | 'T' => some clock
  | 'R' => some (two moment.hour ++ ':' :: two moment.minute)
  | 'X' => some clock
  | 'D' | 'x' => some (two moment.month ++ '/' :: two moment.day ++ '/'
      :: two (moment.year % 100).toNat)
  | 'r' => some (two twelve ++ ':' :: two moment.minute ++ ':' :: two moment.second
      ++ octets (if moment.hour < 12 then " AM" else " PM"))
  | 'c' => some (name dayNames moment.weekday 3 ++ ' ' :: name monthNames (moment.month - 1) 3
      ++ ' ' :: filled ' ' 2 moment.day ++ ' ' :: clock ++ ' ' :: filled '0' 4 moment.year)
  | 'Z' => some (octets "UTC")
  | 'z' => some (octets "+0000")
  | 'q' => some (decimal ((moment.month + 2) / 3))
  | 'n' => some ['\n']
  | 't' => some ['\t']
  | '%' => some ['%']
  | _ => none

/-- A date in a format. -/
def format (moment : Moment) : Nat → Octets → Octets
  | 0, text => text
  | fuel + 1, text =>
    match text with
    | '%' :: rest =>
      let (pad, letters) := match rest with
        | c :: letters => if c ∈ ['-', '_', '0'] then (some c, letters) else (none, rest)
        | [] => (none, [])
      match letters with
      | ':' :: 'z' :: later => octets "+00:00" ++ format moment fuel later
      | letter :: later =>
        match directive? moment letter pad with
        | some shown => shown ++ format moment fuel later
        | none => '%' :: rest.take (rest.length - later.length) ++ format moment fuel later
      | [] => text
    | c :: rest => c :: format moment fuel rest
    | [] => []

/-- The instant that the text of an option names. -/
def instant? (now : Int) (text : Octets) : Option Int :=
  match text.dropWhile Integer.isBlank with
  | '@' :: rest =>
    match Integer.leading? false rest with
    | some reading =>
      match reading.rest with
      | [] => some (reading.value * 1000000000)
      | '.' :: digits =>
        if digits.all Char.isDigit then
          let nanoseconds := Integer.ofDigits 10 ((digits ++ List.replicate 9 '0').take 9)
          some (reading.value * 1000000000 + nanoseconds)
        else none
      | _ => none
    | none => none
  | rest =>
    if rest.isEmpty then some (now / 86400000000000 * 86400000000000)
    else if ["now", "today"].contains (String.ofList rest) then some now
    else if rest == octets "tomorrow" then some (now + 86400000000000)
    else if rest == octets "yesterday" then some (now - 86400000000000)
    else
      let number (start length : Nat) : Option Nat := Integer.count? ((rest.drop start).take length)
      let clock? (start : Nat) : Option Nat := do
        let hour ← number start 2
        let minute ← number (start + 3) 2
        if rest[start + 2]? != some ':' || 23 < hour || 59 < minute then none
        match (rest.drop (start + 5)) with
        | [] | ['Z'] | [' ', 'U', 'T', 'C'] => some ((hour * 60 + minute) * 60)
        | ':' :: _ :: _ :: ending =>
          let second ← number (start + 6) 2
          if 59 < second then none
          if ending.isEmpty || ending == ['Z'] || ending == octets " UTC" then
            some ((hour * 60 + minute) * 60 + second)
          else none
        | _ => none
      do
        let year ← number 0 4
        let month ← number 5 2
        let day ← number 8 2
        if rest[4]? != some '-' || rest[7]? != some '-' then none
        if month < 1 || 12 < month || day < 1 || Timestamp.daysInMonth year month < day then none
        let midnight := Timestamp.daysOfDate year month day * 86400
        if rest.length = 10 then some (midnight * 1000000000)
        else if rest[10]? == some ' ' || rest[10]? == some 'T' then
          (clock? 11).map fun seconds => (midnight + seconds) * 1000000000
        else none

end Surroundings

open Surroundings

/-- Prints a date; there is no local time. -/
def date : Tool := fun _ words => do
  let (options, operands) ← optionsOf
    { letters := plainLetters "uR" ++ valuedLetters "drIf"
      names := [("utc", 'u'), ("universal", 'u'), ("date", 'd'), ("reference", 'r'),
        ("rfc-email", 'R')] }
    (words.map fun word => if "-I".toList.isPrefixOf word then
        (if word.length = 2 then octets "-Idate" else word)
      else if word == octets "--iso-8601" then octets "-Idate"
      else word)
  let now := (← get).tree.clock
  let total ← match value? options 'd' with
    | none => pure now
    | some text =>
      match instant? now text with
      | some total => pure total
      | none => stop 1 (octets "invalid date " ++ quoted text)
  let usual := octets "%a %b %e %H:%M:%S UTC %Y"
  let pattern ← match operands with
    | [] =>
      pure (if has options 'R' then octets "%a, %d %b %Y %H:%M:%S %z"
        else match (value? options 'I').map String.ofList with
          | some "seconds" => octets "%Y-%m-%dT%H:%M:%S+00:00"
          | some "minutes" => octets "%Y-%m-%dT%H:%M+00:00"
          | some "hours" => octets "%Y-%m-%dT%H+00:00"
          | some _ => octets "%Y-%m-%d"
          | none => usual)
    | ['+' :: pattern] => pure pattern
    | [other] => stop 1 (octets "invalid date " ++ quoted other)
    | _ :: extra :: _ => misuse 1 (octets "extra operand " ++ quoted extra)
  Action.print (format (.ofNanoseconds total) (pattern.length + 1) pattern ++ ['\n'])
  return 0

end PromptScript.Shell.Tool
